import PortableDdl.Proofs.ArgumentForms
import PortableDdl.Proofs.CommandOutcome

/-!
# The arguments of a change of privileges

A table, those who get or lose privileges and the privileges are written in any
order and in many forms. How the command line ends hangs on nothing but what they
are, each list in its order.
-/

namespace PortableDdl.CommandLine

def verbWord : GrantVerb → String
  | .grant => "grant"
  | .revoke => "revoke"

namespace PrivilegeSetting

def letter : PrivilegeSetting → Char
  | .grantee => 'g'
  | .privilege => 'p'

def word : PrivilegeSetting → String
  | .grantee => "grantee"
  | .privilege => "privilege"

end PrivilegeSetting

/-- A piece of the arguments: the table, or a setting with its value in some form. -/
inductive PrivilegePiece where
  | table (name : String)
  | setting (s : PrivilegeSetting) (form : ValueForm) (value : String)
deriving DecidableEq, Repr

namespace PrivilegePiece

def arguments : PrivilegePiece → List String
  | .table name => [name]
  | .setting s form value => form.arguments s.letter s.word value

def item : PrivilegePiece → Item HelpFlag PrivilegeSetting
  | .table name => .plain name
  | .setting s _ value => .setting s value

def text : PrivilegePiece → String
  | .table name => name
  | .setting _ _ value => value

def table? : PrivilegePiece → Option String
  | .table name => some name
  | .setting _ _ _ => none

def value? (s : PrivilegeSetting) : PrivilegePiece → Option String
  | .table _ => none
  | .setting t _ value => if t = s then some value else none

end PrivilegePiece

/-- Whether some pieces say the table once and the values of each setting in this
    order. -/
structure Tells (pieces : List PrivilegePiece) (table : String) (grantees privileges : List String) : Prop where
  table : pieces.filterMap PrivilegePiece.table? = [table]
  grantees : pieces.filterMap (PrivilegePiece.value? .grantee) = grantees
  privileges : pieces.filterMap (PrivilegePiece.value? .privilege) = privileges

instance (pieces : List PrivilegePiece) (table : String) (grantees privileges : List String) :
    Decidable (Tells pieces table grantees privileges) :=
  decidable_of_iff (pieces.filterMap PrivilegePiece.table? = [table] ∧
    pieces.filterMap (PrivilegePiece.value? .grantee) = grantees ∧
    pieces.filterMap (PrivilegePiece.value? .privilege) = privileges)
    ⟨fun ⟨t,g,p⟩ => ⟨t,g,p⟩,fun ⟨t,g,p⟩ => ⟨t,g,p⟩⟩

variable {pieces : List PrivilegePiece} {table : String} {grantees texts : List String}

theorem privilege_names (s : PrivilegeSetting) : Names privilegeSyntax s s.letter s.word := by
  cases s
  · exact ⟨by decide,by decide,by decide,by decide,by decide,rfl⟩
  · exact ⟨by decide,by decide,by decide,by decide,by decide,rfl⟩

theorem items_pieces (ordinary : ∀ p ∈ pieces, Ordinary p.text) :
    privilegeSyntax.items (pieces.flatMap PrivilegePiece.arguments) = pieces.map PrivilegePiece.item := by
  induction pieces with
  | nil => rfl
  | cons p pieces ih =>
    obtain ⟨first,others⟩ := List.forall_mem_cons.mp ordinary
    rw [List.flatMap_cons,List.map_cons,← ih others]
    cases p with
    | table name => exact items_plain first List.not_mem_nil _
    | setting s form value => exact items_arguments (privilege_names s) first form _

/-- A privilege as the command line reads it. -/
def readPrivilege (text : String) : Except Interruption Privilege :=
  (Privilege.parse text).mapError fun _ => .fault (.invalidValue "privilege" text)

namespace PrivilegeArguments

theorem add_privilege (a : PrivilegeArguments) (text : String) :
    a.add (.setting .privilege text) =
      (readPrivilege text).map fun p => { a with privileges := a.privileges ++ [p] } := by
  rw [add,readPrivilege]
  cases Privilege.parse text <;> rfl

/-- What pieces come to, if they do not say the table twice. The induction is over
    all that may have been read before them. -/
theorem add_pieces (a : PrivilegeArguments)
    (atMostOne : (a.table.toList ++ pieces.filterMap PrivilegePiece.table?).length ≤ 1) :
    (pieces.map PrivilegePiece.item).foldlM add a =
      ((pieces.filterMap (PrivilegePiece.value? .privilege)).mapM readPrivilege).map fun privileges =>
        { table := (a.table.toList ++ pieces.filterMap PrivilegePiece.table?).head?
          grantees := a.grantees ++ pieces.filterMap (PrivilegePiece.value? .grantee)
          privileges := a.privileges ++ privileges } := by
  induction pieces generalizing a with
  | nil =>
    obtain ⟨table,grantees,privileges⟩ := a
    cases table <;> simp [pure,Except.pure,Except.map]
  | cons p pieces ih =>
    rw [List.map_cons,List.foldlM_cons]
    cases p with
    | table name =>
      obtain ⟨before,grantees,privileges⟩ := a
      cases before with
      | some t => simp [PrivilegePiece.table?] at atMostOne
      | none =>
        have onlyOne : ((some name).toList ++ pieces.filterMap PrivilegePiece.table?).length ≤ 1 := by
          simpa [PrivilegePiece.table?] using atMostOne
        exact ih ⟨some name,grantees,privileges⟩ onlyOne
    | setting s form value =>
      have same : (PrivilegePiece.setting s form value :: pieces).filterMap PrivilegePiece.table? =
          pieces.filterMap PrivilegePiece.table? := rfl
      rw [same] at atMostOne ⊢
      cases s with
      | grantee =>
        refine (ih { a with grantees := a.grantees ++ [value] } atMostOne).trans ?_
        simp [PrivilegePiece.value?]
      | privilege =>
        rw [PrivilegePiece.item,add_privilege]
        have listed : (PrivilegePiece.setting .privilege form value :: pieces).filterMap (PrivilegePiece.value? .privilege) =
            value :: pieces.filterMap (PrivilegePiece.value? .privilege) := rfl
        rw [listed,List.mapM_cons]
        cases readPrivilege value with
        | error e => rfl
        | ok q =>
          refine (ih { a with privileges := a.privileges ++ [q] } atMostOne).trans ?_
          cases (pieces.filterMap (PrivilegePiece.value? .privilege)).mapM readPrivilege with
          | error e => rfl
          | ok qs => simp [Except.map,bind,Except.bind,pure,Except.pure,PrivilegePiece.value?]

end PrivilegeArguments

theorem readPrivileges_pieces (verb : GrantVerb) (tells : Tells pieces table grantees texts)
    (ordinary : ∀ p ∈ pieces, Ordinary p.text) (someone : grantees ≠ []) (something : texts ≠ []) :
    readPrivileges verb (pieces.flatMap PrivilegePiece.arguments) =
      (texts.mapM readPrivilege).map fun privileges => .changePrivileges verb table grantees privileges := by
  have once : (({} : PrivilegeArguments).table.toList ++ pieces.filterMap PrivilegePiece.table?).length ≤ 1 := by
    rw [tells.table]
    exact le_refl 1
  have told := PrivilegeArguments.add_pieces {} once
  rw [tells.table,tells.grantees,tells.privileges] at told
  rw [readPrivileges,items_pieces ordinary,told]
  cases read : texts.mapM readPrivilege with
  | error e => rfl
  | ok privileges =>
    have noneLost : privileges ≠ [] := by
      rintro rfl
      cases texts with
      | nil => exact something rfl
      | cons text texts =>
        rw [List.mapM_cons] at read
        obtain ⟨p,_,rest⟩ := bind_ok_iff.mp read
        obtain ⟨ps,_,whole⟩ := bind_ok_iff.mp rest
        cases whole
    simp [Except.map,bind,Except.bind,PrivilegeArguments.command,required,someone,noneLost,pure,Except.pure]

theorem ordinary_pieces (tells : Tells pieces table grantees texts)
    (ordinary : ∀ text ∈ table :: grantees ++ texts, Ordinary text) : ∀ p ∈ pieces, Ordinary p.text := by
  intro p member
  refine ordinary p.text ?_
  cases p with
  | table name =>
    have listed : name ∈ pieces.filterMap PrivilegePiece.table? := List.mem_filterMap.mpr ⟨_,member,rfl⟩
    rw [tells.table,List.mem_singleton] at listed
    simp [PrivilegePiece.text,listed]
  | setting s form value =>
    have listed : value ∈ pieces.filterMap (PrivilegePiece.value? s) :=
      List.mem_filterMap.mpr ⟨_,member,by simp [PrivilegePiece.value?]⟩
    cases s with
    | grantee =>
      rw [tells.grantees] at listed
      simp [PrivilegePiece.text,listed]
    | privilege =>
      rw [tells.privileges] at listed
      simp [PrivilegePiece.text,listed]

variable {options : List String} {environment : String → Option String} {o : GlobalOptions} {files : Files}

/-- The whole command line is read from what the pieces tell, not from how. -/
theorem ofArguments_pieces (verb : GrantVerb) (leading : Leading options environment o)
    (tells : Tells pieces table grantees texts) (someone : grantees ≠ []) (something : texts ≠ [])
    (ordinary : ∀ text ∈ table :: grantees ++ texts, Ordinary text) :
    Invocation.ofArguments (options ++ verbWord verb :: pieces.flatMap PrivilegePiece.arguments) environment =
      (texts.mapM readPrivilege).map fun privileges => (o,.changePrivileges verb table grantees privileges) := by
  have command : verbWord verb ∈ commandWords := by cases verb <;> decide
  have reader : ∀ args, readCommand (verbWord verb) args = readPrivileges verb args := by
    intro args
    cases verb <;> rfl
  rw [leading.ofArguments command,reader,readPrivileges_pieces verb tells (ordinary_pieces tells ordinary) someone something]
  cases texts.mapM readPrivilege <;> rfl

theorem mapM_readPrivilege_ok_iff {privileges : List Privilege} :
    texts.mapM readPrivilege = .ok privileges ↔ texts.mapM Privilege.parse = .ok privileges :=
  mapM_mapError_ok_iff

theorem mapM_readPrivilege_error {text : String} {e : DdlError} (member : text ∈ texts)
    (unparsed : Privilege.parse text = .error e) : ∃ f, texts.mapM readPrivilege = .error (.fault f) := by
  cases read : texts.mapM readPrivilege with
  | ok privileges =>
    obtain ⟨p,parsed⟩ := mapM_ok_iff.mp ⟨privileges,mapM_readPrivilege_ok_iff.mp read⟩ text member
    cases unparsed.symm.trans parsed
  | error i =>
    obtain ⟨_,text,_,_,_,first⟩ := mapM_error_iff.mp read
    obtain ⟨_,_,rfl⟩ := mapError_error_iff.mp first
    exact ⟨_,rfl⟩

/-- How a command line ends that has, behind options for an adapter, the table
    once and each who gets or loses a privilege and each privilege in any of their
    forms. If some text is no privilege, the arguments make no sense and there is
    no output. Otherwise it ends as the statement of the adapter does for exactly
    these lists in this order: with the statement, or with the error in its way.
    Any other way to write the same in any other order of the pieces ends the
    same. -/
theorem privileges_of_pieces (w : Wording) {a : Adapter} {verb : GrantVerb} (leading : Leading options environment o)
    (adapter : (o.adapter files).value = .ok a) (tells : Tells pieces table grantees texts)
    (someone : grantees ≠ []) (something : texts ≠ [])
    (ordinary : ∀ text ∈ table :: grantees ++ texts, Ordinary text) :
    let ended := run w (options ++ verbWord verb :: pieces.flatMap PrivilegePiece.arguments) environment files
    ((∃ text ∈ texts, ∃ e, Privilege.parse text = .error e) → ended.code = 2 ∧ ended.stdout = "") ∧
    (∀ privileges, texts.mapM Privilege.parse = .ok privileges →
      (∀ s, (a.changePrivileges verb none table grantees privileges).value = .ok s →
        ended.code = 0 ∧ ended.stdout = a.text s ++ "\n") ∧
      ∀ e, (a.changePrivileges verb none table grantees privileges).value = .error e →
        ended.code = 1 ∧ ended.stdout = "" ∧
        ended.stderr =
          w.shown (o.visible (perform o (.changePrivileges verb table grantees privileges) files).events) ++
            ("Error: " ++ e.message w.documentFault ++ w.trace (.refused e) ++ "\n")) ∧
    ∀ others, Tells others table grantees texts →
      run w (options ++ verbWord verb :: others.flatMap PrivilegePiece.arguments) environment files = ended := by
  intro ended
  have reading := ofArguments_pieces verb leading tells someone something ordinary
  refine ⟨?_,?_,?_⟩
  · rintro ⟨text,member,e,unparsed⟩
    obtain ⟨f,refused⟩ := mapM_readPrivilege_error member unparsed
    rw [refused] at reading
    exact run_of_fault w reading
  · intro privileges parsed
    rw [mapM_readPrivilege_ok_iff.mpr parsed] at reading
    have shown : ((Command.changePrivileges verb table grantees privileges).run a).value =
        (a.changePrivileges verb none table grantees privileges).value.map a.text := rfl
    refine ⟨?_,?_⟩
    · intro s written
      obtain ⟨code,stdout,_⟩ := run_of_written w reading adapter (shown.trans (congrArg _ written))
      exact ⟨code,stdout⟩
    · intro e refused
      exact run_of_refused w reading adapter (shown.trans (congrArg _ refused))
  · intro others same
    have alike := ofArguments_pieces verb leading same someone something ordinary
    rw [run,alike,← reading]
    rfl

theorem privileges_of_pieces_of_mixed_forms :
    let environment : String → Option String := fun _ => none
    let files : Files := fun _ => .ok "\x7b\"dialect\":\"postgres\"\x7d".toUTF8
    let options := ["--config","c.json","-s=dir"]
    let apart := ["--privilege","select","-gann","grant","-p=update(id)","--grantee=bob=x"]
    let joined := ["-g=ann","-gbob=x","-pselect","--privilege=update(id)","grant"]
    (run .plain (options ++ "revoke" :: apart) environment files).code = 0 ∧
      (run .plain (options ++ "revoke" :: apart) environment files).stdout =
        "REVOKE SELECT, UPDATE (\"id\") ON \"dir\".\"grant\" FROM \"ann\", \"bob=x\"\n" ∧
      run .plain (options ++ "revoke" :: joined) environment files = run .plain (options ++ "revoke" :: apart) environment files := by
  intro environment files options apart joined
  have leading : Leading options environment ⟨some "c.json",none,some "dir",false,false⟩ :=
    ⟨by decide,⟨⟨some "c.json",none,some "dir",false,false⟩,none⟩,rfl,rfl,rfl⟩
  let pieces : List PrivilegePiece :=
    [.setting .privilege .wordApart "select",.setting .grantee .letterJoined "ann",.table "grant",
      .setting .privilege .letterEquals "update(id)",.setting .grantee .wordEquals "bob=x"]
  let others : List PrivilegePiece :=
    [.setting .grantee .letterEquals "ann",.setting .grantee .letterJoined "bob=x",
      .setting .privilege .letterJoined "select",.setting .privilege .wordEquals "update(id)",.table "grant"]
  have tells : Tells pieces "grant" ["ann","bob=x"] ["select","update(id)"] := by decide
  have same : Tells others "grant" ["ann","bob=x"] ["select","update(id)"] := by decide
  have parsed : ["select","update(id)"].mapM Privilege.parse = .ok [.onColumns .select [],.onColumns .update ["id"]] := by
    decide +kernel
  have ending := @privileges_of_pieces _ _ _ _ options environment _ files .plain ⟨.postgres,⟨some "dir",true⟩⟩ .revoke
    leading rfl tells (by decide) (by decide) (by decide)
  have oneWay : pieces.flatMap PrivilegePiece.arguments = apart := by decide
  have otherWay : others.flatMap PrivilegePiece.arguments = joined := by decide
  rw [oneWay] at ending
  obtain ⟨_,ends,alike⟩ := ending
  have again := alike others same
  rw [otherWay] at again
  have statement : (Adapter.changePrivileges ⟨.postgres,⟨some "dir",true⟩⟩ .revoke none "grant" ["ann","bob=x"]
      [.onColumns .select [],.onColumns .update ["id"]]).value = .ok _ := rfl
  obtain ⟨code,stdout⟩ := (ends _ parsed).1 _ statement
  refine ⟨code,stdout.trans ?_,again⟩
  decide +kernel

end PortableDdl.CommandLine
