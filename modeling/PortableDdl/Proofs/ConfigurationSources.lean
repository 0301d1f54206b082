import PortableDdl.Proofs.DocumentLayout
import PortableDdl.Proofs.DocumentRoundTrip
import PortableDdl.Proofs.Refusal

/-!
# Where configurations come from

A configuration can be built from what is given of it, read from a text or loaded
from a file. All three check the default schema in the same way, and what is not
given has the same value in each.
-/

namespace PortableDdl

open Json (Value read? Laid)

/-- Whether a default schema, if there is one, is more than white space. -/
def Sensible (schema : Option String) : Prop := ∀ s, schema = some s → ∃ c ∈ s.toList, Text.isBlank c = false

theorem validate_ok_iff {s : Settings} : s.validate = .ok () ↔ Sensible s.defaultSchema := by
  have blank : s.defaultSchema.any Text.isBlankText = false ↔ Sensible s.defaultSchema := by
    cases s.defaultSchema <;> simp [Sensible,Text.isBlankText]
  rw [← blank,Settings.validate]
  cases s.defaultSchema.any Text.isBlankText <;> simp

theorem validate_error_iff {s : Settings} {e : DdlError} :
    s.validate = .error e ↔ ¬ Sensible s.defaultSchema ∧ e = .invalidConfiguration .emptyDefaultSchema := by
  rw [← validate_ok_iff]
  constructor
  · intro refused
    exact ⟨by simp [refused],Settings.validate_error refused⟩
  · rintro ⟨refused,rfl⟩
    cases verdict : s.validate with
    | ok => exact absurd verdict refused
    | error e => rw [Settings.validate_error verdict]

namespace Adapter

theorem validated_ok_iff {a b : Adapter} : a.validated = .ok b ↔ Sensible a.settings.defaultSchema ∧ b = a := by
  rw [← validate_ok_iff,validated]
  cases a.settings.validate <;> simp [Except.map,eq_comm]

theorem validated_error_iff {a : Adapter} {e : DdlError} :
    a.validated = .error e ↔ ¬ Sensible a.settings.defaultSchema ∧ e = .invalidConfiguration .emptyDefaultSchema :=
  map_error_iff.trans validate_error_iff

/-- An adapter of which some parts are given. -/
def built (d : Dialect) (schema : Option String) (noAction : Option Bool) : Adapter :=
  let a := ofDialect d
  let a := schema.elim a a.withDefaultSchema
  noAction.elim a a.withNoAction

theorem defaultSchema_built (d : Dialect) (schema : Option String) (noAction : Option Bool) :
    (built d schema noAction).settings.defaultSchema = schema := by
  cases schema <;> cases noAction <;> rfl

/-- The members of a document that gives these parts and no others. -/
def givenMembers (d : Dialect) (schema : Option String) (noAction : Option Bool) : List (String × Value) :=
  ("dialect",.string d.word) ::
    ((schema.map fun s => ("default_schema",Value.string s)).toList ++
      (noAction.map fun b => ("render_no_action",Value.bool b)).toList)

theorem ofJson?_givenMembers (d : Dialect) (schema : Option String) (noAction : Option Bool) :
    ofJson? (.ofMembers (givenMembers d schema noAction)) = some (built d schema noAction) := by
  have distinct : ((givenMembers d schema noAction).map (·.1)).Nodup := by cases schema <;> cases noAction <;> simp [givenMembers]
  have dialect : Dialect.ofJson? (.text (some d.word)) = some d := Dialect.ofJson?_toJson d
  rw [ofJson?,Json.fields?_ofMembers distinct]
  cases schema <;> cases noAction <;>
    simp [givenMembers,Json.lookup_skip,dialect,Json.orNull,Value.optionalString?,Value.string,Value.string?,Value.bool?,
      built,ofDialect,withDefaultSchema,withNoAction]

/-- The members of a document under the names that are known. -/
def knownMembers (ms : List (String × Value)) : List (String × Value) := ms.filter fun m => m.1 ∈ fieldNames

theorem sameDocument_of_known {ms given : List (String × Value)} (wellFormed : ∀ m ∈ ms, m.2.WellFormed)
    (known : (knownMembers ms).Perm given) :
    Json.SameDocument fieldNames optionalNames (fun _ => True) (.ofMembers given) (.ofMembers ms) := by
  have more : ∀ us : List (String × Value), (∀ m ∈ us, m.1 ∉ fieldNames ∧ m.2.WellFormed) →
      Json.SameDocument fieldNames optionalNames (fun _ => True) (.ofMembers given) (.ofMembers (us ++ given)) := by
    intro us unknown
    induction us with
    | nil => exact .reordered (.refl _)
    | cons u us ih =>
      obtain ⟨⟨unknown,wellFormed⟩,others⟩ := List.forall_mem_cons.mp unknown
      exact (ih others).trans (.unknown unknown wellFormed)
  have order : ((ms.filter fun m => m.1 ∉ fieldNames) ++ given).Perm ms := by
    refine (known.symm.append_left _).trans (List.perm_append_comm.trans ?_)
    simpa [knownMembers] using List.filter_append_perm (fun m => m.1 ∈ fieldNames) ms
  refine (more _ fun m member => ?_).trans (.reordered (order.map _))
  obtain ⟨present,unknown⟩ := List.mem_filter.mp member
  exact ⟨by simpa using unknown,wellFormed m present⟩

theorem ofText_of_known {d : Dialect} {schema : Option String} {noAction : Option Bool} {s : String}
    {ms : List (String × Value)} (found : read? s = some (.ofMembers ms))
    (known : (knownMembers ms).Perm (givenMembers d schema noAction)) :
    ofText s = (built d schema noAction).validated := by
  have wellFormed := Json.wellFormed_ofMembers.mp (Json.wellFormed_of_read? found)
  have same := Json.read_of_same byFields (fun _ _ whole => ofJson?_list whole) (sameDocument_of_known wellFormed known)
  rw [ofText,found,Option.bind_some,← same,ofJson?_givenMembers]

theorem fromUTF8?_toUTF8 (t : String) : String.fromUTF8? t.toUTF8 = some t := dif_pos t.isValidUTF8

theorem fromUTF8?_eq_none {bytes : ByteArray} (other : ∀ t : String, t.toUTF8 ≠ bytes) : String.fromUTF8? bytes = none :=
  dif_neg fun valid => other (.fromUTF8 bytes valid) rfl

/-- What is reported before a file is read. -/
def loading (path : String) : Event := .debug ("Loading adapter configuration from " ++ path)

theorem load_text {files : Files} {path t : String} (found : files path = .ok t.toUTF8) :
    load files path = ⟨ofText t,[loading path]⟩ := by
  have text : files.readText path = .ok t := by
    rw [Files.readText,found]
    dsimp only
    rw [fromUTF8?_toUTF8]
  rw [load,text]
  rfl

theorem load_notText {files : Files} {path : String} {bytes : ByteArray} (found : files path = .ok bytes)
    (other : ∀ t : String, t.toUTF8 ≠ bytes) : load files path = ⟨.error (.unreadable .notUtf8),[loading path]⟩ := by
  have noText : files.readText path = .error .notUtf8 := by
    rw [Files.readText,found]
    dsimp only
    rw [fromUTF8?_eq_none other]
  rw [load,noText]
  rfl

/-- A document is read as what is built from the parts that it gives, whatever
    its layout, the order of its members and what else stands among them: the same
    adapter, or the same refusal of a blank default schema. No other default
    schema is refused, and none that is blank is ever read. A file is read as its
    text, if its bytes are those of a text, and refused as a file if not. -/
theorem configuration_sources_agree :
    (∀ d schema noAction s ms, read? s = some (.ofMembers ms) → (knownMembers ms).Perm (givenMembers d schema noAction) →
      ofText s = (built d schema noAction).validated) ∧
    (∀ (ms : List (String × Value)) s, (∀ m ∈ ms, m.2.WellFormed) → Laid (Value.ofMembers ms).tokens s.toList →
      read? s = some (.ofMembers ms)) ∧
    (∀ d schema noAction, (Sensible schema → (built d schema noAction).validated = .ok (built d schema noAction)) ∧
      (¬ Sensible schema → (built d schema noAction).validated = .error (.invalidConfiguration .emptyDefaultSchema))) ∧
    (∀ s a, ofText s = .ok a → Sensible a.settings.defaultSchema) ∧
    (∀ files path (t : String), files path = .ok t.toUTF8 → load files path = ⟨ofText t,[loading path]⟩) ∧
    ∀ files path bytes, files path = .ok bytes → (∀ t : String, t.toUTF8 ≠ bytes) →
      load files path = ⟨.error (.unreadable .notUtf8),[loading path]⟩ := by
  refine ⟨?_,?_,?_,?_,?_,?_⟩
  · intro d schema noAction s ms found known
    exact ofText_of_known found known
  · intro ms s wellFormed laid
    exact Json.read?_laid (Json.wellFormed_ofMembers.mpr wellFormed) laid
  · intro d schema noAction
    rw [validated_ok_iff,validated_error_iff,defaultSchema_built]
    exact ⟨fun sensible => ⟨sensible,rfl⟩,fun blank => ⟨blank,rfl⟩⟩
  · intro s a read
    rw [ofText] at read
    split at read
    · obtain ⟨sensible,rfl⟩ := validated_ok_iff.mp read
      exact sensible
    · cases read
  · intro files path t found
    exact load_text found
  · intro files path bytes found other
    exact load_notText found other

theorem configuration_sources_agree_of_document :
    ofText "\x7b\"more\":[1e3], \"render_no_action\":false,\"dialect\":\"derby\"\x7d" = (built .derby none (some false)).validated ∧
      load (fun _ => .ok ⟨#[0xFF]⟩) "c.json" = ⟨.error (.unreadable .notUtf8),[loading "c.json"]⟩ := by
  obtain ⟨read,_,_,_,_,notText⟩ := configuration_sources_agree
  have found : read? "\x7b\"more\":[1e3], \"render_no_action\":false,\"dialect\":\"derby\"\x7d" =
      some (.ofMembers [("more",.list [.number "1e3"]),("render_no_action",.bool false),("dialect",.string "derby")]) := by
    rfl
  refine ⟨read _ _ _ _ _ found (.swap _ _ _),notText _ _ _ rfl ?_⟩
  intro t same
  have valid : t.toUTF8.IsValidUTF8 := t.isValidUTF8
  rw [same] at valid
  exact absurd valid (by decide)

end Adapter

end PortableDdl
