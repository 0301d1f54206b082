import PortableDdl.Document.Configuration
import PortableDdl.Proofs.DocumentFields

/-!
# The layout of documents

Foreign keys, configurations and privileges are read the same from documents
that differ in their layout alone, and not at all from documents in which a
known name stands twice. A list stands for a privilege only if the kind in it is
a plain text.
-/

namespace PortableDdl

open Json (Value read?)

/-- The names under which a foreign key may have null for nothing. -/
def ForeignKey.optionalNames : List String := ["schema","references_schema","on_delete","on_update"]

theorem ForeignKey.byFields : Json.ByFields fieldNames optionalNames ofJson? where
  unreadable := by
    intro ms unreadable
    simp [ForeignKey.ofJson?,Json.fields?,unreadable]
  alike := by
    intro ms ns before behind alike
    simp only [fieldNames,optionalNames,Json.Alike,List.mem_cons,List.not_mem_nil,or_false,forall_eq_or_imp,forall_eq,
      String.reduceEq,or_self,or_true,if_true,if_false] at alike
    simp [ForeignKey.ofJson?,Json.fields?,before,behind,alike]

/-- The names under which a configuration may have null for nothing. -/
def Adapter.optionalNames : List String := ["default_schema"]

theorem Adapter.byFields : Json.ByFields fieldNames optionalNames ofJson? where
  unreadable := by
    intro ms unreadable
    simp [Adapter.ofJson?,Json.fields?,unreadable]
  alike := by
    intro ms ns before behind alike
    simp only [fieldNames,optionalNames,Json.Alike,List.mem_cons,List.not_mem_nil,or_false,forall_eq_or_imp,forall_eq,
      String.reduceEq,if_true,if_false] at alike
    simp [Adapter.ofJson?,Json.fields?,before,behind,alike]

/-- The names of the parts of a privilege. -/
def Privilege.fieldNames : List String := ["kind","columns"]

/-- The names under which a privilege may have null for nothing. -/
def Privilege.optionalNames : List String := ["columns"]

/-- Missing columns are as good as null, whether the privilege takes columns or
    not. -/
theorem Privilege.ofKind?_orNull (kind : String) (columns : Option Value) :
    ofKind? kind columns = ofKind? kind (some (Json.orNull columns)) := by
  cases columns with
  | none =>
    unfold ofKind?
    cases ColumnRight.ofWord? kind <;> rfl
  | some v => rfl

theorem Privilege.byFields : Json.ByFields fieldNames optionalNames ofJson? where
  unreadable := by
    intro ms unreadable
    simp only [fieldNames] at unreadable
    simp [Privilege.ofJson?,Json.fields?,unreadable]
  alike := by
    intro ms ns before behind alike
    simp only [fieldNames,optionalNames,Json.Alike,List.mem_cons,List.not_mem_nil,or_false,forall_eq_or_imp,forall_eq,
      String.reduceEq,if_true,if_false] at before behind alike
    obtain ⟨kind,columns⟩ := alike
    simp only [Privilege.ofJson?,Json.fields?,before,behind,if_true,Option.bind_eq_bind,Option.bind_some,kind]
    refine Option.bind_congr fun word _ => ?_
    rw [ofKind?_orNull,columns,← ofKind?_orNull]

theorem ForeignKey.ofJson?_list {items : List Value} (whole : items.length = fieldNames.length) :
    ofJson? (.list items) = ofJson? (.ofMembers (fieldNames.zip items)) := by
  rw [ForeignKey.ofJson?,ForeignKey.ofJson?,Json.fields?_list (by decide) whole (by decide)]

theorem Adapter.ofJson?_list {items : List Value} (whole : items.length = fieldNames.length) :
    ofJson? (.list items) = ofJson? (.ofMembers (fieldNames.zip items)) := by
  rw [Adapter.ofJson?,Adapter.ofJson?,Json.fields?_list (by decide) whole (by decide)]

/-- Whether a list begins with a plain text. -/
def Privilege.HasPlainKind (items : List Value) : Prop := ∃ kind, items.head? = some (.string kind)

theorem Privilege.ofJson?_list {items : List Value} (plain : HasPlainKind items) (whole : items.length = fieldNames.length) :
    ofJson? (.list items) = ofJson? (.ofMembers (fieldNames.zip items)) := by
  obtain ⟨kind,first⟩ := plain
  obtain ⟨v,columns,rfl⟩ := List.length_eq_two.mp whole
  cases first
  rfl

namespace Json

/-- A reader of texts that does not see the layout of a document. Whatever is the
    same document can be written, and is read the same; what has a known name
    twice is refused. -/
structure IgnoresLayout {α : Type} (names optional : List String) (inOrder : List Value → Prop) (read : String → α)
    (refused : α) : Prop where
  same : ∀ {s : String} {v w : Value}, read? s = some v → SameDocument names optional inOrder v w →
    (∃ t, read? t = some w) ∧ ∀ t, read? t = some w → read t = read s
  repeated : ∀ {s : String} {ms : List Member} {n : String}, read? s = some (.record ms) → n ∈ names →
    2 ≤ ms.countP (·.1 == some n) → read s = refused

theorem ignoresLayout {α β : Type} {names optional : List String} {inOrder : List Value → Prop}
    {read : Value → Option α} (byFields : ByFields names optional read)
    (byPosition : ∀ items, inOrder items → items.length = names.length →
      read (.list items) = read (.ofMembers (names.zip items))) (verdict : Option α → β) :
    IgnoresLayout names optional inOrder (fun s => verdict ((read? s).bind read)) (verdict none) where
  same := by
    intro s v w found same
    have wellFormed := (wellFormed_iff_of_same same).mp (wellFormed_of_read? found)
    refine ⟨⟨w.write,read?_write wellFormed⟩,fun t rewritten => ?_⟩
    rw [found,rewritten,Option.bind_some,Option.bind_some,read_of_same byFields byPosition same]
  repeated := by
    intro s ms n found known repeated
    rw [found,Option.bind_some,read_of_repeated byFields known repeated]

end Json

/-- What becomes of a configuration that is read. -/
def Adapter.verdict (found : Option Adapter) : Except DdlError Adapter :=
  match found with
  | some a => a.validated
  | none => .error .malformedDocument

/-- The layout of a document makes no difference to the foreign key, the
    configuration or the privilege that is read from it. -/
theorem documents_ignore_layout :
    Json.IgnoresLayout ForeignKey.fieldNames ForeignKey.optionalNames (fun _ => True)
      (fun s => (read? s).bind ForeignKey.ofJson?) none ∧
    Json.IgnoresLayout Adapter.fieldNames Adapter.optionalNames (fun _ => True)
      Adapter.ofText (.error .malformedDocument) ∧
    Json.IgnoresLayout Privilege.fieldNames Privilege.optionalNames Privilege.HasPlainKind
      (fun s => (read? s).bind Privilege.ofJson?) none := by
  refine ⟨?_,?_,?_⟩
  · exact Json.ignoresLayout ForeignKey.byFields (fun _ _ whole => ForeignKey.ofJson?_list whole) id
  · exact Json.ignoresLayout Adapter.byFields (fun _ _ whole => Adapter.ofJson?_list whole) Adapter.verdict
  · exact Json.ignoresLayout Privilege.byFields (fun _ plain whole => Privilege.ofJson?_list plain whole) id

/-- The kind of a privilege may be a record of one member in a record, but not in
    a list. -/
theorem privilege_list_refuses_tag :
    (read? "\x7b\"kind\":\x7b\"select\":null\x7d,\"columns\":[\"a\"]\x7d").bind Privilege.ofJson? =
      some (.selectColumns ["a"]) ∧
    (read? "[\x7b\"select\":null\x7d,[\"a\"]]").bind Privilege.ofJson? = none := by
  decide +kernel

end PortableDdl
