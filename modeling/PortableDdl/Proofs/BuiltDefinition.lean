import Mathlib.Data.List.Induction
import PortableDdl.Column.Change

/-!
# Building a definition

Capabilities are made step by step, and so are definitions. Whatever the steps
were, a definition has the type that it began with and holds nothing that the
type does not take. Whether a change is refused, and why, hangs on the type and
the change alone.
-/

namespace PortableDdl

/-- One step in making capabilities. -/
inductive CapabilityStep where
  | default
  | length (support : LimitSupport)
  | precision (support : LimitSupport)
deriving DecidableEq, Repr

/-- What a step claims about limits, if it speaks of them. -/
def CapabilityStep.limit? : CapabilityStep → Option (LimitSupport × LimitKind)
  | .default => none
  | .length support => some (support,.length)
  | .precision support => some (support,.precision)

namespace Capabilities

/-- The capabilities after one more step. -/
def extend (c : Capabilities) : CapabilityStep → Capabilities
  | .default => c.withDefault
  | .length support => c.withLength support
  | .precision support => c.withPrecision support

/-- The capabilities that some steps make of nothing, or of a default value
    alone. -/
def made (isScalar : Bool) (steps : List CapabilityStep) : Capabilities :=
  steps.foldl extend (if isScalar then scalar else bare)

/-- What some steps claim: a default value if one of them does, and limits as the
    last one says that speaks of them. -/
def claimed (isScalar : Bool) (steps : List CapabilityStep) : Capabilities :=
  let limit := (steps.filterMap CapabilityStep.limit?).getLast?.getD (.unsupported,.length)
  ⟨isScalar || steps.contains .default,limit.1,limit.2⟩

theorem claimed_append (isScalar : Bool) (steps : List CapabilityStep) (step : CapabilityStep) :
    claimed isScalar (steps ++ [step]) = (claimed isScalar steps).extend step := by
  cases step with
  | default => simp [claimed,extend,withDefault,CapabilityStep.limit?]
  | length support => simp [claimed,extend,withLength,CapabilityStep.limit?]
  | precision support => simp [claimed,extend,withPrecision,CapabilityStep.limit?]

/-- Later steps about limits replace earlier ones, and no step takes a default
    value back. -/
theorem made_eq_claimed (isScalar : Bool) (steps : List CapabilityStep) :
    made isScalar steps = claimed isScalar steps := by
  induction steps using List.reverseRecOn with
  | nil => cases isScalar <;> rfl
  | append_singleton steps step ih =>
    rw [claimed_append,← ih]
    simp [made]

end Capabilities

/-- The kind of a limit. -/
def Limit.kind : Limit → LimitKind
  | .length _ => .length
  | .precision _ _ => .precision

/-- The length, or the number of digits. -/
def Limit.size : Limit → UInt32
  | .length n => n
  | .precision p _ => p

/-- How many digits stand behind the point, if the limit says so. -/
def Limit.scale? : Limit → Option UInt32
  | .length _ => none
  | .precision _ s => s

/-- The faults of limits, in the order in which they count. -/
def LimitFault.ranked : List LimitFault := [.lengthExpected,.precisionExpected,.zero,.scaleExceedsPrecision]

/-- Whether a limit has a fault, for a type that takes limits of a kind. -/
def LimitFault.affects (kind : LimitKind) (l : Limit) : LimitFault → Bool
  | .lengthExpected => kind = .length ∧ l.kind = .precision
  | .precisionExpected => kind = .precision ∧ l.kind = .length
  | .zero => l.size = 0
  | .scaleExceedsPrecision => l.scale?.any (l.size < ·)

namespace Capabilities

/-- Why a type refuses a change, if it does. -/
def refusal? (c : Capabilities) (type : String) : ColumnChange → Option DdlError
  | .limit l =>
    if c.limit = .unsupported then some (.limitNotSupported type)
    else (LimitFault.ranked.find? (·.affects c.limitKind l)).map (.invalidLimit type)
  | .defaultValue _ => if c.acceptsDefault then none else some (.defaultNotSupported type)
  | _ => none

/-- Whether a limit is one that a type takes. -/
structure Takes (c : Capabilities) (l : Limit) : Prop where
  supported : c.limit ≠ .unsupported
  kind : l.kind = c.limitKind
  positive : 0 < l.size
  scale : ∀ s, l.scale? = some s → s ≤ l.size

theorem limitFault?_eq_find? (kind : LimitKind) (l : Limit) :
    limitFault? kind l = LimitFault.ranked.find? (·.affects kind l) := by
  simp only [LimitFault.ranked,List.find?_cons,List.find?_nil,LimitFault.affects]
  cases l with
  | length n =>
    by_cases zero : n = 0 <;> cases kind <;> simp [limitFault?,Limit.kind,Limit.size,Limit.scale?,zero]
  | precision p s =>
    cases s with
    | none => by_cases zero : p = 0 <;> cases kind <;> simp [limitFault?,Limit.kind,Limit.size,Limit.scale?,zero]
    | some q =>
      by_cases zero : p = 0 <;> by_cases exceeds : p < q <;> cases kind <;>
        simp [limitFault?,Limit.kind,Limit.size,Limit.scale?,zero,exceeds]

/-- A type takes what it does not refuse. -/
theorem takes_of_accepted {c : Capabilities} {type : String} {l : Limit}
    (accepted : c.refusal? type (.limit l) = none) : c.Takes l := by
  rw [refusal?] at accepted
  split at accepted
  · cases accepted
  · rename_i supported
    have faultless : ∀ fault ∈ LimitFault.ranked, ¬ fault.affects c.limitKind l = true := by
      simpa using accepted
    have noLength := faultless .lengthExpected (by decide)
    have noPrecision := faultless .precisionExpected (by decide)
    have notZero := faultless .zero (by decide)
    have noExcess := faultless .scaleExceedsPrecision (by decide)
    refine ⟨supported,?_,?_,?_⟩
    · cases kind : c.limitKind <;> cases given : l.kind <;> simp_all [LimitFault.affects]
    · simpa [LimitFault.affects,UInt32.pos_iff_ne_zero] using notZero
    · intro s asked
      simpa [LimitFault.affects,asked] using noExcess

end Capabilities

/-- The change that brings something to a definition, whether the type takes it
    or not. -/
def ColumnDefinition.holding (d : ColumnDefinition) : ColumnChange → ColumnDefinition
  | .suffix s => { d with suffix := some s }
  | .limit l => { d with limit := some l }
  | .defaultValue v => { d with defaultValue := some v }
  | .notNull => { d with notNull := true }
  | .primaryKey => { d with primaryKey := true }
  | .unique => { d with unique := true }
  | .check condition => { d with check := some condition }

namespace ColumnDefinition

/-- A change is refused for the reason that the type has, and else made. -/
theorem change_eq (d : ColumnDefinition) (x : ColumnChange) :
    d.change x = match d.capabilities.refusal? d.baseType x with
      | some e => .error e
      | none => .ok (d.holding x) := by
  cases x with
  | limit l =>
    rw [change,withLimit,Capabilities.checkLimit,Capabilities.refusal?,Capabilities.limitFault?_eq_find?]
    split
    · rfl
    · cases LimitFault.ranked.find? (·.affects d.capabilities.limitKind l) <;> rfl
  | defaultValue v =>
    rw [change,withDefault,Capabilities.checkDefault,Capabilities.refusal?]
    cases d.capabilities.acceptsDefault <;> rfl
  | _ => rfl

theorem change_error_iff (d : ColumnDefinition) (x : ColumnChange) (e : DdlError) :
    d.change x = .error e ↔ d.capabilities.refusal? d.baseType x = some e := by
  rw [change_eq]
  cases d.capabilities.refusal? d.baseType x <;> simp

theorem change_ok_iff {d e : ColumnDefinition} {x : ColumnChange} :
    d.change x = .ok e ↔ d.capabilities.refusal? d.baseType x = none ∧ e = d.holding x := by
  rw [change_eq]
  cases d.capabilities.refusal? d.baseType x <;> simp [eq_comm]

theorem changeOrKeep_eq (d : ColumnDefinition) (x : ColumnChange) :
    d.changeOrKeep x = if d.capabilities.refusal? d.baseType x = none then d.holding x else d := by
  rw [changeOrKeep,change_eq]
  cases d.capabilities.refusal? d.baseType x <;> simp

/-- Whether a limit is given in the course of some changes and taken. -/
def Gains (d : ColumnDefinition) (xs : List ColumnChange) (l : Limit) : Prop :=
  ∃ before after, xs = before ++ .limit l :: after ∧ ∃ next, (d.run before).change (.limit l) = .ok next

/-- What holds of a definition after any changes of one that was of a type alone. -/
structure Sound (type : String) (c : Capabilities) (d : ColumnDefinition) : Prop where
  baseType : d.baseType = type
  capabilities : d.capabilities = c
  limit : ∀ l, d.limit = some l → c.Takes l
  defaultValue : d.defaultValue.isSome → c.acceptsDefault

variable {type : String} {c : Capabilities} {d : ColumnDefinition}

theorem sound_ofType (type : String) (c : Capabilities) : Sound type c (ofType type c) :=
  ⟨rfl,rfl,by simp [ofType],by simp [ofType]⟩

/-- What a type does not refuse keeps a definition of it sound. -/
theorem sound_holding {x : ColumnChange} (sound : Sound type c d) (accepted : c.refusal? type x = none) :
    Sound type c (d.holding x) := by
  cases x with
  | limit l =>
    refine ⟨sound.baseType,sound.capabilities,?_,sound.defaultValue⟩
    intro given same
    cases same
    exact Capabilities.takes_of_accepted accepted
  | defaultValue v =>
    refine ⟨sound.baseType,sound.capabilities,sound.limit,fun _ => ?_⟩
    by_contra no
    simp [Capabilities.refusal?,no] at accepted
  | _ => exact ⟨sound.baseType,sound.capabilities,sound.limit,sound.defaultValue⟩

theorem sound_changeOrKeep (sound : Sound type c d) (x : ColumnChange) : Sound type c (d.changeOrKeep x) := by
  rw [changeOrKeep_eq,sound.capabilities,sound.baseType]
  split
  · exact sound_holding sound ‹_›
  · exact sound

theorem sound_run (sound : Sound type c d) (xs : List ColumnChange) : Sound type c (d.run xs) := by
  induction xs generalizing d with
  | nil => exact sound
  | cons x xs ih => exact ih (sound_changeOrKeep sound x)

theorem run_append (d : ColumnDefinition) (xs : List ColumnChange) (x : ColumnChange) :
    d.run (xs ++ [x]) = (d.run xs).changeOrKeep x := by
  simp [run]

/-- Only the last change adds to what was gained before it. -/
theorem gains_append {xs : List ColumnChange} {x : ColumnChange} {l : Limit} :
    d.Gains (xs ++ [x]) l ↔ d.Gains xs l ∨ x = .limit l ∧ ∃ next, (d.run xs).change (.limit l) = .ok next := by
  constructor
  · rintro ⟨before,after,split,taken⟩
    rcases after.eq_nil_or_concat with rfl | ⟨inner,last,rfl⟩
    · obtain ⟨rfl,same⟩ := List.append_inj' split rfl
      exact .inr ⟨by simpa using same,taken⟩
    · have shifted : xs ++ [x] = (before ++ .limit l :: inner) ++ [last] := by simpa using split
      obtain ⟨rfl,_⟩ := List.append_inj' shifted rfl
      exact .inl ⟨before,inner,rfl,taken⟩
  · rintro (⟨before,after,rfl,taken⟩ | ⟨rfl,taken⟩)
    · exact ⟨before,after ++ [x],by simp,taken⟩
    · exact ⟨xs,[],rfl,taken⟩

/-- A change leaves a limit behind if there was one, or if it brings one that is
    taken. -/
theorem limit_changeOrKeep (d : ColumnDefinition) (x : ColumnChange) :
    (d.changeOrKeep x).limit.isSome ↔
      d.limit.isSome ∨ ∃ l, x = .limit l ∧ ∃ next, d.change (.limit l) = .ok next := by
  rw [changeOrKeep_eq]
  cases x with
  | limit l =>
    cases refused : d.capabilities.refusal? d.baseType (.limit l) <;>
      simp [holding,change_eq,refused]
  | _ => split <;> simp [holding]

/-- There is a limit in the end if one of those given was taken. -/
theorem limit_run (type : String) (c : Capabilities) (xs : List ColumnChange) :
    ((ofType type c).run xs).limit.isSome ↔ ∃ l, (ofType type c).Gains xs l := by
  -- Backwards, since a change is judged by the definition that the ones before it made.
  induction xs using List.reverseRecOn with
  | nil => simp [run,ofType,Gains]
  | append_singleton xs x ih =>
    rw [run_append,limit_changeOrKeep,ih,← exists_or]
    exact exists_congr fun l => gains_append.symm

theorem typeText_error_iff (d : ColumnDefinition) (e : DdlError) :
    d.typeText = .error e ↔
      e = .missingRequiredLimit d.baseType ∧ d.capabilities.limit = .required ∧ ¬ d.limit.isSome := by
  have lacks : d.lacksLimit = true ↔ d.capabilities.limit = .required ∧ ¬ d.limit.isSome := by
    simp [lacksLimit,and_comm]
  rw [typeText]
  split
  · rename_i lacking
    simp [lacks.mp lacking,eq_comm]
  · rename_i complete
    exact iff_of_false (by simp) fun missing => complete (lacks.mpr missing.2)

theorem sql_error_iff (d : ColumnDefinition) (name : String) (e : DdlError) :
    d.sql name = .error e ↔ d.typeText = .error e := by
  rw [sql,text]
  cases d.typeText <;> simp [Except.map]

/-- Whatever was changed in a definition, its type and capabilities are those
    that it began with, and it holds no limit and no default value that they do
    not take. They and the change alone decide whether a change is refused. The
    definition has no text exactly if its type needs a limit and takes none of
    those that were given. -/
theorem built_definition_sound (isScalar : Bool) (steps : List CapabilityStep) (type : String) (xs : List ColumnChange) :
    let c := Capabilities.made isScalar steps
    let d := (ofType type c).run xs
    c = Capabilities.claimed isScalar steps ∧ d.baseType = type ∧ d.capabilities = c ∧
    (∀ l, d.limit = some l →
      c.limit ≠ .unsupported ∧ l.kind = c.limitKind ∧ 0 < l.size ∧ ∀ s, l.scale? = some s → s ≤ l.size) ∧
    (d.defaultValue.isSome → c.acceptsDefault) ∧
    (∀ x e, d.change x = .error e ↔ c.refusal? type x = some e) ∧
    (∀ e, d.typeText = .error e ↔
      e = .missingRequiredLimit type ∧ c.limit = .required ∧ ¬ ∃ l, (ofType type c).Gains xs l) ∧
    ∀ name e, d.sql name = .error e ↔
      e = .missingRequiredLimit type ∧ c.limit = .required ∧ ¬ ∃ l, (ofType type c).Gains xs l := by
  intro c d
  have sound : Sound type c d := sound_run (sound_ofType type c) xs
  have textless : ∀ e, d.typeText = .error e ↔
      e = .missingRequiredLimit type ∧ c.limit = .required ∧ ¬ ∃ l, (ofType type c).Gains xs l := by
    intro e
    rw [typeText_error_iff,sound.baseType,sound.capabilities,limit_run]
  refine ⟨Capabilities.made_eq_claimed isScalar steps,sound.baseType,sound.capabilities,?_,sound.defaultValue,?_,
    textless,fun name e => (sql_error_iff d name e).trans (textless e)⟩
  · intro l held
    obtain ⟨supported,kind,positive,scale⟩ := sound.limit l held
    exact ⟨supported,kind,positive,scale⟩
  · intro x e
    rw [change_error_iff,sound.capabilities,sound.baseType]

end ColumnDefinition

end PortableDdl
