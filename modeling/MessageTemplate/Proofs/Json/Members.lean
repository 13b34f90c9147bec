import MessageTemplate.Json.Reading
import MessageTemplate.Proofs.Text.Order
import MessageTemplate.Proofs.Yaml.Readers
import MessageTemplate.Yaml.Views

/-! # Members in order

The members of an object stand in the order of the bytes of their names, with one member to a name.
An object is in order if it was read, whether as JSON or as YAML: `isOrdered_read?` and
`isOrdered_readJson?`. Nothing is said of the objects inside of it. -/

namespace MessageTemplate

open MessageTemplate.Checked

namespace Json

/-- Whether the bytes of each name stand before those of the next. -/
def Ascend (names : List String) : Prop :=
  names.Pairwise fun earlier later => bytesOf earlier.toList < bytesOf later.toList

/-- Whether a value that is an object has its members in order. -/
def IsOrdered (value : Json) : Prop :=
  ∀ members, value = object members → Ascend (members.map Prod.fst)

/-- Names whose bytes ascend are in the order of texts. -/
theorem ascend_iff {names : List String} :
    Ascend names ↔ names.Pairwise fun earlier later => earlier < later := by
  simp only [Ascend, bytesOf_lt_iff]
  rfl

/-- Names whose bytes ascend are distinct. -/
theorem Ascend.nodup {names : List String} (ascend : Ascend names) : names.Nodup := by
  refine List.Pairwise.imp ?_ ascend
  rintro name _ before rfl
  exact List.lt_irrefl _ before

variable {name other : String} {value : Json} {members : List (String × Json)}

/-- Binding a member brings at most its own name. -/
theorem mem_names_insertMember (isName : other ∈ (insertMember name value members).map Prod.fst) :
    other = name ∨ other ∈ members.map Prod.fst := by
  induction members with
  | nil => exact .inl (List.mem_singleton.mp isName)
  | cons member rest inductionHypothesis =>
      obtain ⟨first, held⟩ := member
      rw [insertMember] at isName
      grind

/-- Binding a member keeps the names in ascending order. -/
theorem Ascend.insertMember (ascend : Ascend (members.map Prod.fst)) (name : String)
    (value : Json) : Ascend ((insertMember name value members).map Prod.fst) := by
  induction members with
  | nil => exact List.pairwise_singleton _ _
  | cons member rest inductionHypothesis =>
      obtain ⟨first, held⟩ := member
      obtain ⟨beforeRest, restAscends⟩ := List.pairwise_cons.mp ascend
      rw [Json.insertMember]
      split
      case isTrue same =>
        subst same
        exact ascend
      case isFalse differs =>
        split
        case isTrue isFirst =>
          have before : bytesOf name.toList < bytesOf first.toList := bytesOf_lt isFirst
          refine List.pairwise_cons.mpr ⟨fun other isLater => ?_, ascend⟩
          rcases List.mem_cons.mp isLater with rfl | isLater
          · exact before
          · exact List.lt_trans before (beforeRest other isLater)
        case isFalse notFirst =>
          have after : first.toList < name.toList := by
            rcases List.le_iff_lt_or_eq.mp (List.not_lt.mp notFirst) with after | same
            · exact after
            · exact absurd (String.toList_inj.mp same).symm differs
          refine List.pairwise_cons.mpr ⟨fun other isLater => ?_, inductionHypothesis restAscends⟩
          rcases mem_names_insertMember isLater with rfl | isLater
          · exact bytesOf_lt after
          · exact beforeRest other isLater

/-- An object is in order in whatever order its members were given. -/
theorem isOrdered_ofMembers (members : List (String × Json)) : (ofMembers members).IsOrdered := by
  have insertAll (held : List (String × Json)) (ascend : Ascend (held.map Prod.fst)) :
      Ascend ((members.foldl (fun held member => insertMember member.1 member.2 held) held).map
        Prod.fst) := by
    induction members generalizing held with
    | nil => exact ascend
    | cons member rest inductionHypothesis =>
        exact inductionHypothesis _ (ascend.insertMember member.1 member.2)
  rintro _ ⟨rfl⟩
  exact insertAll [] .nil

/-! ## Reading JSON -/

/-- Whether a value that is read, if one is, is in order. What is left to read comes with it. -/
def GivesOrdered (read : Option (Json × List Char)) : Prop :=
  Gives (fun result => result.1.IsOrdered) read

/-- However a number is written, every way to its end gives a number or nothing. -/
theorem givesOrdered_readNumber? (text : List Char) : GivesOrdered (readNumber? text) := by
  have tail (negative : Bool) (whole rest : List Char) :
      GivesOrdered (readNumberTail? negative whole rest) := by
    unfold readNumberTail?
    dsimp only
    repeat' first
      | exact gives_none
      | exact gives_some (by nofun)
      | refine Gives.bind (fun _ => ?_) _
      | split
  unfold readNumber?
  dsimp only
  repeat' first
    | exact gives_none
    | exact tail _ _ _
    | split

/-- The items of an array are read in order. -/
theorem givesOrdered_readItems? (fuel depth : Nat) (read : List Json) (text : List Char) :
    GivesOrdered (readItems? fuel depth read text) := by
  induction fuel generalizing read text with
  | zero => exact gives_none
  | succ fuel inductionHypothesis =>
      rw [readItems?]
      refine Gives.bind (fun (item, rest) => ?_) _
      dsimp only
      split
      · exact inductionHypothesis _ _
      · exact gives_some (by nofun)
      · exact gives_none

/-- The members of an object are read in order. -/
theorem givesOrdered_readMembers? (fuel depth : Nat) (read : List (String × Json))
    (text : List Char) : GivesOrdered (readMembers? fuel depth read text) := by
  induction fuel generalizing read text with
  | zero => exact gives_none
  | succ fuel inductionHypothesis =>
      rw [readMembers?]
      split
      · refine Gives.bind (fun (name, rest) => ?_) _
        dsimp only
        split
        · refine Gives.bind (fun (value, rest) => ?_) _
          dsimp only
          split
          · exact inductionHypothesis _ _
          · exact gives_some (isOrdered_ofMembers _)
          · exact gives_none
        · exact gives_none
      · exact gives_none

/-- A value is read with all its members in order, at any depth. -/
theorem givesOrdered_readValue? (fuel depth : Nat) (text : List Char) :
    GivesOrdered (readValue? fuel depth text) := by
  cases fuel with
  | zero => exact gives_none
  | succ fuel =>
      rw [readValue?]
      split
      · exact Gives.map (fun _ => by nofun) _
      · split
        · exact gives_none
        · exact gives_none
        · split
          · exact gives_some (by nofun)
          · exact givesOrdered_readItems? _ _ _ _
      · split
        · exact gives_none
        · exact gives_none
        · split
          · exact gives_some (isOrdered_ofMembers [])
          · exact givesOrdered_readMembers? _ _ _ _
      · exact Gives.map (fun _ => by nofun) _
      · exact Gives.map (fun _ => by nofun) _
      · exact Gives.map (fun _ => by nofun) _
      · exact givesOrdered_readNumber? _

/-- An object that is read from JSON is in order. -/
theorem isOrdered_read? {text : String} {value : Json} (isRead : read? text = some value) :
    value.IsOrdered := by
  rw [read?] at isRead
  split at isRead
  case h_1 found rest reached =>
    split at isRead
    · cases isRead
      exact givesOrdered_readValue? _ _ _ _ reached
    · cases isRead
  case h_2 => cases isRead

end Json

/-! ## Reading YAML -/

namespace Yaml

/-! A scalar is no object. -/

/-- A double has no members to put in order. -/
theorem isOrdered_floatToJson (value : Float) : (floatToJson value).IsOrdered := by
  rw [floatToJson]
  split <;> exact nofun

/-- A number has no members to put in order. -/
theorem isOrdered_of_readNumber? {text : List Char} {value : Json}
    (isRead : readNumber? text = some (some value)) : value.IsOrdered := by
  rw [readNumber?] at isRead
  repeat' split at isRead
  all_goals cases isRead
  all_goals exact nofun

/-- A plain scalar has no members to put in order. -/
theorem givesOrdered_plainToJson? (text : String) : Gives Json.IsOrdered (plainToJson? text) := by
  unfold plainToJson?
  repeat' first
    | exact gives_none
    | exact gives_some (isOrdered_floatToJson _)
    | exact gives_some (isOrdered_of_readNumber? (by assumption))
    | exact gives_some (by nofun)
    | split

/-- A scalar has no members to put in order, whatever its style and tag. -/
theorem givesOrdered_scalarToJson? (text : String) (style : ScalarStyle) (tag : Option Tag) :
    Gives Json.IsOrdered (scalarToJson? text style tag) := by
  unfold scalarToJson?
  repeat' first
    | exact gives_none
    | exact gives_some (by nofun)
    | exact Gives.map isOrdered_floatToJson _
    | exact Gives.map (fun _ => by nofun) _
    | exact givesOrdered_plainToJson? text
    | split
  intro value isRead
  obtain ⟨number, found, rfl⟩ := Option.bind_eq_some_iff.mp isRead
  exact isOrdered_of_readNumber? found

/-! ## Reading YAML documents -/

/-- A node becomes a value with all its members in order. -/
theorem reads_toJsonWithin (depth : Nat) (node : Node) :
    Reads Json.IsOrdered (node.toJsonWithin depth) := by
  cases depth with
  | zero =>
      rw [Node.toJsonWithin]
      refine (reads_any _).bind fun followed _ => ?_
      split
      · exact reads_lift (givesOrdered_scalarToJson? _ _ _)
      · exact reads_failure
  | succ depth =>
      rw [Node.toJsonWithin]
      refine (reads_any _).bind fun followed _ => ?_
      split
      · exact reads_lift (givesOrdered_scalarToJson? _ _ _)
      · exact (reads_any _).bind fun items _ => reads_pure (by nofun)
      · exact (reads_any _).bind fun members _ => reads_pure (Json.isOrdered_ofMembers members)
      · exact reads_failure

/-- An object that is read from YAML is in order. -/
theorem isOrdered_readJson? {text : String} {value : Json} (isRead : readJson? text = some value) :
    value.IsOrdered := by
  obtain ⟨document, -, given⟩ := Option.bind_eq_some_iff.mp isRead
  cases document with
  | none =>
      cases given
      exact nofun
  | some document => exact Reads.read? (reads_toJsonWithin Node.depthBound) given

end Yaml

end MessageTemplate
