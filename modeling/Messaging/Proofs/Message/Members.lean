import Messaging.Proofs.Json.Strings
import Messaging.Proofs.Message.Values

/-!
Documents by their members. What is read from an object is told by its members in their order, each
by its name and its value alone, whatever blanks stand between them; members of other names are
passed over. What is read from a list is told by its elements likewise. What is told is the record,
or what is wrong and with which member, but not where in the document.
-/
namespace Messaging

open Json

/-- A member of an object as it is written: what stands between the quotes of its name, and the
text of its value. -/
structure Entry where
  name : Bytes
  value : Bytes
  isContents : StringLiteral.IsContents name
  isValue : IsValue value

namespace Entry

def nameText (e : Entry) : Except Fault String := alone StringLiteral.read (e.name ++ [0x22])

def valueOf (e : Entry) (m : Member) : Except Fault m.Value := alone (readMember m) e.value

/-- The bytes write the entry, with any blanks around its parts. -/
def Writes (e : Entry) (bs : Bytes) : Prop :=
  ∃ w₁ w₂ w₃ w₄, IsBlanks w₁ ∧ IsBlanks w₂ ∧ IsBlanks w₃ ∧ IsBlanks w₄
    ∧ bs = w₁ ++ 0x22 :: (e.name ++ 0x22 :: (w₂ ++ 0x3A :: (w₃ ++ (e.value ++ w₄))))

end Entry

/-- The document writes an object with these members. -/
def WritesObject (entries : List Entry) (document : Bytes) : Prop :=
  ∃ w w' w'' items, IsBlanks w ∧ IsBlanks w' ∧ IsBlanks w''
    ∧ List.Forall₂ Entry.Writes entries items
    ∧ document = w ++ 0x7B :: (w' ++ (commaSeparated items ++ 0x7D :: w''))

section Drafts

variable {α : Type} (shape : Shape α)

/-- The draft with a member more: one of the record must be new and have a value, and any other
changes nothing. -/
def Draft.takeNamed (d : Draft) (e : Entry) (name : String) : Except Fault Draft :=
  match Member.ofName? shape.members name with
  | none => .ok d
  | some m =>
    if (d m).isSome then .error (.misfit (.repeated m.name) [])
    else (under (.member name) (e.valueOf m)).map (d.set m)

def Draft.take (d : Draft) (e : Entry) : Except Fault Draft :=
  e.nameText >>= d.takeNamed shape e

def Draft.finish (d : Draft) : Except Fault α :=
  (buildRecord shape d).mapError fun kind => .misfit kind []

def recordOf (entries : List Entry) : Except Fault α :=
  entries.foldlM (Draft.take shape) Draft.empty >>= Draft.finish shape

end Drafts

section Records

variable {α : Type} {shape : Shape α}

theorem unplaced_finish (d : Draft) (rest : Bytes) :
    unplaced (match buildRecord shape d with
      | .ok x => (pure (x, rest) : Except Fault (α × Bytes))
      | .error kind => throw (Fault.misfit kind rest))
      = (d.finish shape).map fun x => (x, rest) := by
  rw [Draft.finish]
  cases buildRecord shape d <;> rfl

theorem unplaced_readDocument {document w : Bytes} {x : Except Fault α} (hw : IsBlanks w)
    (h : unplaced (readRecord shape document) = x.map fun x => (x, w)) :
    unplaced (readDocument shape document) = x := by
  have hend : skipBlanks w = [] := by
    rw [← List.append_nil w, skipBlanks_append hw]
    rfl
  rw [readDocument, unplaced_bind, h]
  cases x with
  | error fault => rfl
  | ok x =>
    simp only [Except.map, bind, Except.bind, hend]
    rfl

end Records

theorem commaSeparated_cons_cons (item next : Bytes) (items : List Bytes) :
    commaSeparated (item :: next :: items)
      = item ++ 0x2C :: commaSeparated (next :: items) := rfl

section Objects

variable {α : Type} {shape : Shape α} {d : Draft} {room : Nat}

theorem unplaced_readNamed {e : Entry} {w w' rest : Bytes} (hw : IsBlanks w) (hw' : IsBlanks w')
    (hrest : Delimited rest) (hroom : e.value.length ≤ room) (name : String) :
    unplaced (readNamed shape room d name (w ++ 0x3A :: (w' ++ (e.value ++ rest))))
      = (d.takeNamed shape e name).map fun d => (d, rest) := by
  rw [readNamed, Draft.takeNamed]
  cases Member.ofName? shape.members name with
  | none =>
    have hskip := skipValue_of_isValue hw' e.isValue hrest hroom
    simp only [colon_append hw, bind, Except.bind, hskip]
    rfl
  | some m =>
    by_cases hknown : (d m).isSome = true
    · simp only [if_pos hknown]
      rfl
    · have hread := (settles_readMember m e.isValue).eq_alone delimited_nil rest hrest
      simp only [if_neg hknown, unplaced_map, unplaced_under, colon_append hw, bind, Except.bind,
        readMember_blanks m hw', hread, Entry.valueOf]
      cases alone (readMember m) e.value <;> rfl

theorem readMembers_blanks {w : Bytes} (hw : IsBlanks w) (bs : Bytes) :
    readMembers shape room d (w ++ bs) = readMembers shape room d bs := by
  cases room with
  | zero => simp only [readMembers]
  | succ room => simp only [readMembers, skipBlanks_append hw]

theorem unplaced_readMembers_succ {e : Entry} {item : Bytes} (h : e.Writes item)
    (hroom : item.length ≤ room + 1) {b : UInt8} (hb : b = 0x7D ∨ b = 0x2C) (rest : Bytes) :
    unplaced (readMembers shape (room + 1) d (item ++ b :: rest))
      = d.take shape e >>= fun d =>
          if b = 0x7D then .ok (d, rest) else unplaced (readMembers shape room d rest) := by
  obtain ⟨w₁, w₂, w₃, w₄, hw₁, hw₂, hw₃, hw₄, rfl⟩ := h
  have hblank : isBlank b = false := by rcases hb with rfl | rfl <;> decide
  have hdelimiter : IsDelimiter b := by
    rcases hb with rfl | rfl
    · exact .inr (.inr (.inr rfl))
    · exact .inr (.inl rfl)
  have hvalue : e.value.length ≤ room + 1 := by
    simp only [List.length_append, List.length_cons] at hroom
    omega
  have hname := (StringLiteral.settles_read e.isContents).eq_alone trivial
    (w₂ ++ 0x3A :: (w₃ ++ (e.value ++ (w₄ ++ b :: rest)))) trivial
  rw [List.append_assoc, List.singleton_append] at hname
  have hbytes : (w₁ ++ 0x22 :: (e.name ++ 0x22 :: (w₂ ++ 0x3A :: (w₃ ++ (e.value ++ w₄)))))
      ++ b :: rest = w₁ ++ 0x22 :: (e.name ++ 0x22 :: (w₂ ++ 0x3A :: (w₃ ++ (e.value
        ++ (w₄ ++ b :: rest))))) := by
    simp
  rw [hbytes, readMembers_blanks hw₁, readMembers, skipBlanks_cons (by decide), Draft.take,
    Entry.nameText]
  simp only [show (0x22 : UInt8) ≠ 0x7D by decide, if_false, ne_eq, not_true_eq_false,
    unplaced_bind, hname]
  cases alone StringLiteral.read (e.name ++ [0x22]) with
  | error fault => rfl
  | ok name =>
    have hnamed := @unplaced_readNamed α shape d (room + 1) e w₂ w₃ (w₄ ++ b :: rest) hw₂ hw₃
      (delimited_blanks hw₄ hdelimiter rest) hvalue name
    simp only [Except.map, bind, Except.bind, hnamed]
    cases d.takeNamed shape e name with
    | error fault => rfl
    | ok d =>
      simp only [skipBlanks_append hw₄, skipBlanks_cons hblank]
      rcases hb with rfl | rfl <;> rfl

/-- The members of an object are taken one by one. -/
theorem unplaced_readMembers (rest : Bytes) {entries : List Entry} {items : List Bytes}
    (h : List.Forall₂ Entry.Writes entries items) (hne : entries ≠ [])
    (hroom : (commaSeparated items).length ≤ room) :
    unplaced (readMembers shape room d (commaSeparated items ++ 0x7D :: rest))
      = (entries.foldlM (Draft.take shape) d).map fun d => (d, rest) := by
  induction h generalizing d room with
  | nil => exact absurd rfl hne
  | @cons e item entries items hitem hitems ih =>
    have hpositive : 0 < item.length := by
      obtain ⟨w₁, w₂, w₃, w₄, -, -, -, -, rfl⟩ := hitem
      simp only [List.length_append, List.length_cons]
      omega
    cases hitems with
    | nil =>
      rw [commaSeparated] at hroom ⊢
      obtain ⟨room, rfl⟩ : ∃ n, room = n + 1 := ⟨room - 1, by omega⟩
      rw [unplaced_readMembers_succ hitem hroom (.inl rfl)]
      simp only [if_true, List.foldlM_cons, List.foldlM_nil]
      cases d.take shape e <;> rfl
    | @cons next item' more items' hnext hmore =>
      have hjoin : commaSeparated (item :: item' :: items') ++ 0x7D :: rest
          = item ++ 0x2C :: (commaSeparated (item' :: items') ++ 0x7D :: rest) := by
        rw [commaSeparated_cons_cons, List.append_assoc, List.cons_append]
      rw [commaSeparated_cons_cons, List.length_append, List.length_cons] at hroom
      obtain ⟨room, rfl⟩ : ∃ n, room = n + 1 := ⟨room - 1, by omega⟩
      rw [hjoin, unplaced_readMembers_succ hitem (by omega) (.inr rfl), List.foldlM_cons]
      simp only [show (0x2C : UInt8) ≠ 0x7D by decide, if_false]
      cases d.take shape e with
      | error fault => rfl
      | ok d => exact ih (by simp) (by omega)

theorem exists_quote {e : Entry} {entries : List Entry} {items : List Bytes}
    (h : List.Forall₂ Entry.Writes (e :: entries) items) (rest : Bytes) :
    ∃ w tail, IsBlanks w ∧ commaSeparated items ++ rest = w ++ 0x22 :: tail := by
  cases h with
  | @cons _ item _ items hitem hitems =>
    obtain ⟨w₁, w₂, w₃, w₄, hw₁, -, -, -, rfl⟩ := hitem
    cases items with
    | nil => exact ⟨w₁, _, hw₁, by rw [commaSeparated, List.append_assoc, List.cons_append]⟩
    | cons next items =>
      exact ⟨w₁, _, hw₁, by
        rw [commaSeparated_cons_cons, List.append_assoc, List.append_assoc, List.cons_append]⟩

theorem unplaced_readObject {w : Bytes} (hw : IsBlanks w) (rest : Bytes) {entries : List Entry}
    {items : List Bytes} (h : List.Forall₂ Entry.Writes entries items) :
    unplaced (readObject shape (w ++ (commaSeparated items ++ 0x7D :: rest)))
      = (recordOf shape entries).map fun x => (x, rest) := by
  rw [readObject, skipBlanks_append hw]
  cases entries with
  | nil =>
    cases h
    rw [commaSeparated, List.nil_append, skipBlanks_cons (by decide)]
    exact unplaced_finish .empty rest
  | cons e entries =>
    obtain ⟨w₁, tail, hw₁, hquote⟩ := exists_quote h (0x7D :: rest)
    have hmembers := @unplaced_readMembers α shape .empty
      ((w ++ (commaSeparated items ++ 0x7D :: rest)).length + 1) rest _ _ h (by simp) (by
        simp only [List.length_append, List.length_cons]
        omega)
    rw [hquote, readMembers_blanks hw₁] at hmembers
    rw [hquote, skipBlanks_append hw₁, skipBlanks_cons (by decide)]
    simp only [show (0x22 : UInt8) ≠ 0x7D by decide, if_false, if_true, unplaced_bind, hmembers]
    rw [recordOf]
    cases (e :: entries).foldlM (Draft.take shape) .empty with
    | error fault => rfl
    | ok d => exact unplaced_finish d rest

theorem unplaced_readDocument_object {entries : List Entry} {document : Bytes}
    (h : WritesObject entries document) :
    unplaced (readDocument shape document) = recordOf shape entries := by
  obtain ⟨w, w', w'', items, hw, hw', hw'', hitems, rfl⟩ := h
  refine unplaced_readDocument hw'' ?_
  rw [readRecord, skipBlanks_append hw, skipBlanks_cons (by decide)]
  exact unplaced_readObject hw' w'' hitems

end Objects

structure Element where
  text : Bytes
  isValue : IsValue text

namespace Element

def valueOf (v : Element) (m : Member) : Except Fault m.Value := alone (readMember m) v.text

/-- The bytes write the element, with any blanks around it. -/
def Writes (v : Element) (bs : Bytes) : Prop :=
  ∃ w w', IsBlanks w ∧ IsBlanks w' ∧ bs = w ++ (v.text ++ w')

end Element

/-- The document writes a list of these elements. -/
def WritesList (elements : List Element) (document : Bytes) : Prop :=
  ∃ w w' w'' items, IsBlanks w ∧ IsBlanks w' ∧ IsBlanks w''
    ∧ List.Forall₂ Element.Writes elements items
    ∧ document = w ++ 0x5B :: (w' ++ (commaSeparated items ++ 0x5D :: w''))

/-- The draft with the elements from the one numbered `index` on as values of the members, which
must be as many. -/
def Draft.takeElements {α : Type} (shape : Shape α) :
    (index : Nat) → List Member → List Element → Draft → Except Fault Draft
  | _, [], [], d => .ok d
  | _, [], _ :: _, _ => .error (.breach .trailingCharacters [])
  | index, _ :: _, [], _ => .error (.misfit (.length index (lengthWanted shape)) [])
  | index, m :: ms, v :: vs, d =>
    under (.element index) (v.valueOf m) >>= fun x =>
      takeElements shape (index + 1) ms vs (d.set m x)

def recordOfElements {α : Type} (shape : Shape α) (elements : List Element) : Except Fault α :=
  Draft.takeElements shape 0 shape.members elements .empty >>= Draft.finish shape

section Lists

variable {α : Type} {shape : Shape α} {index : Nat}

/-- Elements from the one numbered `index` on, with the commas that stand before them. -/
def elementsFrom (index : Nat) : List Bytes → Bytes
  | [] => []
  | item :: items =>
    (if index = 0 then [] else [0x2C]) ++ (item ++ items.flatMap fun item => 0x2C :: item)

theorem elementsFrom_zero (items : List Bytes) : elementsFrom 0 items = commaSeparated items := by
  cases items with
  | nil => rfl
  | cons item items =>
    rw [elementsFrom, if_pos rfl, List.nil_append]
    induction items generalizing item with
    | nil => simp [commaSeparated]
    | cons next items ih => rw [commaSeparated_cons_cons, ← ih next, List.flatMap_cons]; rfl

theorem elementsFrom_succ (items : List Bytes) :
    elementsFrom (index + 1) items = items.flatMap fun item => 0x2C :: item := by
  cases items <;> simp [elementsFrom]

theorem beforeElement_append {w w' : Bytes} (hw : IsBlanks w) (hw' : IsBlanks w') (v : Element)
    (rest : Bytes) :
    beforeElement index (w ++ ((if index = 0 then [] else [0x2C]) ++ (w' ++ (v.text ++ rest))))
      = .ok (v.text ++ rest) := by
  obtain ⟨b, tail, hv, hblank, -, hclose⟩ := v.isValue.exists_cons
  have hlist : b ≠ 0x5D := hclose .list
  rw [beforeElement, skipBlanks_append hw]
  by_cases hfirst : index = 0
  · rw [if_pos hfirst, List.nil_append, skipBlanks_append hw', hv, List.cons_append,
      skipBlanks_cons hblank]
    simp only [if_pos hfirst]
  · rw [if_neg hfirst, List.singleton_append, skipBlanks_cons (by decide)]
    simp only [if_neg hfirst, if_true, skipBlanks_append hw', hv, List.cons_append,
      skipBlanks_cons hblank, if_neg hlist]

theorem exists_skipBlanks_element {w w' : Bytes} (hw : IsBlanks w) (hw' : IsBlanks w')
    (v : Element) (rest : Bytes) :
    ∃ b tail, skipBlanks (w ++ ((if index = 0 then [] else [0x2C]) ++ (w' ++ (v.text ++ rest))))
      = b :: tail ∧ b ≠ 0x5D := by
  obtain ⟨b, tail, hv, hblank, -, hclose⟩ := v.isValue.exists_cons
  rw [skipBlanks_append hw]
  by_cases hfirst : index = 0
  · rw [if_pos hfirst, List.nil_append, skipBlanks_append hw', hv, List.cons_append,
      skipBlanks_cons hblank]
    exact ⟨b, _, rfl, hclose .list⟩
  · rw [if_neg hfirst, List.singleton_append, skipBlanks_cons (by decide)]
    exact ⟨_, _, rfl, by decide⟩

theorem unplaced_listEnd {w w' : Bytes} (hw : IsBlanks w) (hw' : IsBlanks w') (v : Element)
    (rest : Bytes) :
    unplaced (listEnd
        (w ++ ((if index = 0 then [] else [0x2C]) ++ (w' ++ (v.text ++ rest)))))
      = .error (.breach .trailingCharacters []) := by
  obtain ⟨b, tail, hv, hblank, hcomma, hclose⟩ := v.isValue.exists_cons
  have hlist : b ≠ 0x5D := hclose .list
  rw [listEnd, skipBlanks_append hw]
  by_cases hfirst : index = 0
  · rw [if_pos hfirst, List.nil_append, skipBlanks_append hw', hv, List.cons_append,
      skipBlanks_cons hblank]
    simp only [if_neg hlist, if_neg hcomma]
    rfl
  · rw [if_neg hfirst, List.singleton_append, skipBlanks_cons (by decide)]
    simp only [show (0x2C : UInt8) ≠ 0x5D by decide, if_false, if_true, skipBlanks_append hw', hv,
      List.cons_append, skipBlanks_cons hblank, if_neg hlist]
    rfl

theorem elementsFrom_cons {v : Element} {w₁ w₂ : Bytes} (w : Bytes) (items : List Bytes)
    (rest : Bytes) :
    w ++ (elementsFrom index ((w₁ ++ (v.text ++ w₂)) :: items) ++ 0x5D :: rest)
      = w ++ ((if index = 0 then [] else [0x2C]) ++ (w₁ ++ (v.text
        ++ (w₂ ++ (elementsFrom (index + 1) items ++ 0x5D :: rest))))) := by
  rw [elementsFrom, elementsFrom_succ]
  simp only [List.append_assoc]

theorem delimited_elementsFrom {w : Bytes} (hw : IsBlanks w) (items : List Bytes) (rest : Bytes) :
    Delimited (w ++ (elementsFrom (index + 1) items ++ 0x5D :: rest)) := by
  rw [elementsFrom_succ]
  cases items with
  | nil => exact delimited_blanks hw (.inr (.inr (.inl rfl))) rest
  | cons item items => exact delimited_blanks hw (.inr (.inl rfl)) _

theorem unplaced_readElements (rest : Bytes) {ms : List Member} {elements : List Element}
    {items : List Bytes} (h : List.Forall₂ Element.Writes elements items) {w : Bytes}
    (hw : IsBlanks w) {d : Draft} :
    unplaced (readElements shape index ms d (w ++ (elementsFrom index items ++ 0x5D :: rest)))
      = (d.takeElements shape index ms elements).map fun d => (d, rest) := by
  induction ms generalizing index elements items w d with
  | nil =>
    rw [readElements, unplaced_bind]
    cases h with
    | nil =>
      rw [elementsFrom, List.nil_append, listEnd, skipBlanks_append hw, skipBlanks_cons (by decide)]
      rfl
    | @cons v item elements items hitem hitems =>
      obtain ⟨w₁, w₂, hw₁, -, rfl⟩ := hitem
      rw [elementsFrom_cons, unplaced_listEnd hw hw₁]
      rfl
  | cons m ms ih =>
    rw [readElements]
    cases h with
    | nil =>
      rw [elementsFrom, List.nil_append, skipBlanks_append hw, skipBlanks_cons (by decide)]
      rfl
    | @cons v item elements items hitem hitems =>
      obtain ⟨w₁, w₂, hw₁, hw₂, rfl⟩ := hitem
      obtain ⟨b, tail, hskip, hb⟩ := @exists_skipBlanks_element index w w₁ hw hw₁ v
        (w₂ ++ (elementsFrom (index + 1) items ++ 0x5D :: rest))
      have hbefore := @beforeElement_append index w w₁ hw hw₁ v
        (w₂ ++ (elementsFrom (index + 1) items ++ 0x5D :: rest))
      have hread := (settles_readMember m v.isValue).eq_alone delimited_nil _
        (@delimited_elementsFrom index w₂ hw₂ items rest)
      rw [elementsFrom_cons, hskip, hbefore]
      split
      · rename_i heq
        exact absurd (List.cons.inj heq).1 hb
      · simp only [ok_bind, unplaced_bind, unplaced_under, hread]
        rw [Draft.takeElements, Element.valueOf]
        cases alone (readMember m) v.text with
        | error fault => rfl
        | ok x => exact ih hitems hw₂

theorem unplaced_readDocument_list {elements : List Element} {document : Bytes}
    (h : WritesList elements document) :
    unplaced (readDocument shape document) = recordOfElements shape elements := by
  obtain ⟨w, w', w'', items, hw, hw', hw'', hitems, rfl⟩ := h
  have helements := @unplaced_readElements α shape 0 w'' shape.members elements items hitems w' hw'
    .empty
  rw [elementsFrom_zero] at helements
  refine unplaced_readDocument hw'' ?_
  rw [readRecord, skipBlanks_append hw, skipBlanks_cons (by decide)]
  simp only [show (0x5B : UInt8) ≠ 0x7B by decide, if_false, if_true, unplaced_bind, helements]
  rw [recordOfElements]
  cases Draft.takeElements shape 0 shape.members elements .empty with
  | error fault => rfl
  | ok d => exact unplaced_finish d w''

end Lists

theorem isContents_escapeByte_append (b : UInt8) {bs : Bytes}
    (h : StringLiteral.IsContents bs) : StringLiteral.IsContents (escapeByte b ++ bs) := by
  unfold escapeByte
  split
  case h_8 hquote hbackslash _ _ _ _ _ =>
    split
    · obtain ⟨c, hc, hhigh⟩ := Hex.encodeChar_digit (Hex.toNat_high_lt b)
      obtain ⟨d, hd, hlow⟩ := Hex.encodeChar_digit (Hex.toNat_low_lt b)
      have hdigits : Utf8.encode (Hex.ofByte b) = [c, d] := by
        rw [Hex.ofByte, Utf8.encode_cons, Utf8.encode_cons, hc, hd]
        rfl
      rw [hdigits]
      refine @StringLiteral.IsContents.unit [0x30, 0x30, c, d] bs rfl ?_ h
      have hzero : (Hex.value? 0x30).isSome = true := by decide
      simp [hhigh, hlow, hzero]
    · rename_i hcontrol
      exact .plain hcontrol hquote hbackslash h
  all_goals exact .short (by decide) h

theorem isContents_flatMap_escapeByte (bs : Bytes) :
    StringLiteral.IsContents (bs.flatMap escapeByte) := by
  induction bs with
  | nil => exact .nil
  | cons b bs ih => exact isContents_escapeByte_append b ih

theorem alone_flatMap_escapeByte (s : String) :
    alone StringLiteral.read ((Utf8.ofString s).flatMap escapeByte ++ [0x22]) = .ok s := by
  obtain ⟨tail, hstring, hread⟩ := read_string s []
  rw [List.append_nil, string, List.cons.injEq] at hstring
  rw [hstring.2, alone, hread]
  rfl

theorem isValue_string (s : String) : IsValue (string s) :=
  .scalar (.string (isContents_flatMap_escapeByte _))

theorem isValue_flag (value : Bool) : IsValue (flag value) := by
  cases value
  · exact .scalar .no
  · exact .scalar .yes

def Entry.written (name : String) {value : Bytes} (h : IsValue value) : Entry where
  name := (Utf8.ofString name).flatMap escapeByte
  value := value
  isContents := isContents_flatMap_escapeByte _
  isValue := h

@[simp] theorem Entry.nameText_written (name : String) {value : Bytes} (h : IsValue value) :
    (written name h).nameText = .ok name := alone_flatMap_escapeByte name

theorem writesObject_object {ι : Type} {name : ι → String} {value : ι → Bytes}
    (h : ∀ i, IsValue (value i)) {w : Bytes} (hw : IsBlanks w) (is : List ι) :
    WritesObject (is.map fun i => .written (name i) (h i))
      (w ++ object (is.map fun i => member (name i) (value i))) := by
  have hnone : IsBlanks [] := by simp [IsBlanks]
  refine ⟨w, [], [], _, hw, hnone, hnone, ?_, rfl⟩
  rw [List.forall₂_map_left_iff, List.forall₂_map_right_iff, List.forall₂_same]
  intro i _
  refine ⟨[], [], [], [], hnone, hnone, hnone, hnone, ?_⟩
  simp [member, string, Entry.written]

end Messaging
