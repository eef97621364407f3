import Messaging.Proofs.Except
import Messaging.Proofs.Json.Unescaped
import Messaging.Proofs.Message.Members

/-!
Which objects are submissions. An object is one exactly if each of the four members of a submission
occurs in it once, with a value that is read as that member's; these values are the submission, and
all else that the object holds, or the order in which it holds it, is of no account.
-/
namespace Messaging

open Json

/-- The document is an object, with any blanks around it. -/
def IsObjectText (document : Bytes) : Prop :=
  ∃ w bs w', IsBlanks w ∧ IsBlanks w' ∧ IsValue (0x7B :: bs) ∧ document = w ++ 0x7B :: (bs ++ w')

/-- After a value in an object, the rest of the object's bytes are those of its other members. -/
theorem exists_commaSeparated {part : Part} {bs : Bytes} (h : IsPart part bs)
    (hpart : part = .between .object) (e : Entry) (item : Bytes)
    (hitem : ∀ w, IsBlanks w → e.Writes (item ++ w)) :
    ∃ entries items, List.Forall₂ Entry.Writes (e :: entries) items
      ∧ item ++ bs = commaSeparated items ++ [0x7D] := by
  induction h generalizing e item with
  | scalar | frame | empty | first => cases hpart
  | @last frame w hw =>
    cases hpart
    exact ⟨[], [item ++ w], .cons (hitem w hw) .nil, by simp [commaSeparated, Frame.close]⟩
  | @next frame w w' lead w'' v bs hw hw' hlead hw'' hv _ _ ih =>
    cases hpart
    obtain ⟨name, w₂, hname, hw₂, rfl⟩ := hlead
    obtain ⟨entries, items, hitems, hbytes⟩ := ih rfl ⟨name, v, hname, hv⟩
      (w' ++ 0x22 :: (name ++ 0x22 :: (w₂ ++ 0x3A :: (w'' ++ v))))
      fun w₄ hw₄ => ⟨w', w₂, w'', w₄, hw', hw₂, hw'', hw₄, by simp⟩
    refine ⟨_, (item ++ w) :: items, .cons (hitem w hw) hitems, ?_⟩
    cases hitems with
    | cons => simpa [commaSeparated_cons_cons] using hbytes

theorem exists_writesObject {document : Bytes} (h : IsObjectText document) :
    ∃ entries, WritesObject entries document := by
  obtain ⟨w, bs, w', hw, hw', hvalue, rfl⟩ := h
  cases hvalue.opened with
  | @empty _ w₁ hw₁ =>
    exact ⟨[], w, w₁, w', [], hw, hw₁, hw', .nil, by simp [commaSeparated, Frame.close]⟩
  | @first _ w₁ lead w₃ v bs hw₁ hlead hw₃ hv hbs =>
    obtain ⟨name, w₂, hname, hw₂, rfl⟩ := hlead
    have hnone : IsBlanks [] := by simp [IsBlanks]
    obtain ⟨entries, items, hitems, hbytes⟩ := exists_commaSeparated hbs rfl
      ⟨name, v, hname, hv⟩ (0x22 :: (name ++ 0x22 :: (w₂ ++ 0x3A :: (w₃ ++ v))))
      fun w₄ hw₄ => ⟨[], w₂, w₃, w₄, hnone, hw₂, hw₃, hw₄, by simp⟩
    refine ⟨_, w, w₁, w', items, hw, hw₁, hw', hitems, ?_⟩
    have hrest : commaSeparated items ++ 0x7D :: w' = (commaSeparated items ++ [0x7D]) ++ w' := by
      simp
    rw [hrest, ← hbytes]
    simp

/-- All names spell a text: no escape in them gives half of a pair of surrogates. -/
def Spelled (entries : List Entry) : Prop := ∀ e ∈ entries, ∃ s, StringLiteral.Spells e.name s

/-- This entry is the only one whose name spells this one. -/
def OccursOnce (entries : List Entry) (name : String) (e : Entry) : Prop :=
  ∃ before after, entries = before ++ e :: after ∧ StringLiteral.Spells e.name name
    ∧ ∀ e' ∈ before ++ after, ¬ StringLiteral.Spells e'.name name

/-- The text, read on its own and to its end, is this value of the member. -/
def Decodes (m : Member) (v : Bytes) (x : m.Value) : Prop := readMember m v = .ok (x, [])

/-- The member occurs once, with a text that is this value of it. -/
def Holds (entries : List Entry) (m : Member) (x : m.Value) : Prop :=
  ∃ e, OccursOnce entries m.name e ∧ Decodes m e.value x

theorem Entry.nameText_of_spells {e : Entry} {s : String} (h : StringLiteral.Spells e.name s) :
    e.nameText = .ok s :=
  alone_eq_ok_iff.mpr ⟨[], h.read []⟩

theorem Entry.valueOf_eq_ok_iff {e : Entry} {m : Member} {x : m.Value} :
    e.valueOf m = .ok x ↔ Decodes m e.value x := by
  have hwhole := (settles_readMember m e.isValue).eq_alone delimited_nil [] delimited_nil
  rw [List.append_nil] at hwhole
  rw [valueOf, Decodes, ← @unplaced_eq_ok_iff _ (readMember m e.value), hwhole]
  cases alone (readMember m) e.value <;> simp [Except.map]

section Occurs

variable {entries entries' more : List Entry} {name : String} {e e' : Entry}

open Classical in
theorem occursOnce_iff_filter :
    OccursOnce entries name e
      ↔ entries.filter (fun e => decide (StringLiteral.Spells e.name name)) = [e] := by
  simp only [OccursOnce, List.filter_eq_cons_iff, List.filter_eq_nil_iff, List.forall_mem_append,
    decide_eq_true_eq]
  constructor
  · rintro ⟨before, after, rfl, hname, hbefore, hafter⟩
    exact ⟨before, after, rfl, hbefore, hname, hafter⟩
  · rintro ⟨before, after, rfl, hbefore, hname, hafter⟩
    exact ⟨before, after, rfl, hname, hbefore, hafter⟩

theorem occursOnce_cons_of_spells (h : StringLiteral.Spells e'.name name) :
    OccursOnce (e' :: entries) name e
      ↔ e = e' ∧ ∀ e ∈ entries, ¬ StringLiteral.Spells e.name name := by
  rw [occursOnce_iff_filter, List.filter_cons_of_pos (by simpa using h), List.cons.injEq,
    List.filter_eq_nil_iff, eq_comm]
  simp only [decide_eq_true_eq]

theorem occursOnce_cons_of_not_spells (h : ¬ StringLiteral.Spells e'.name name) :
    OccursOnce (e' :: entries) name e ↔ OccursOnce entries name e := by
  rw [occursOnce_iff_filter, List.filter_cons_of_neg (by simpa using h), occursOnce_iff_filter]

theorem occursOnce_of_perm (h : entries'.Perm (entries ++ more))
    (hmore : ∀ e ∈ more, ¬ StringLiteral.Spells e.name name) :
    OccursOnce entries' name e ↔ OccursOnce entries name e := by
  classical
  have hnone : more.filter (fun e => decide (StringLiteral.Spells e.name name)) = [] :=
    List.filter_eq_nil_iff.mpr fun e he => by simpa using hmore e he
  have hfilter := h.filter fun e => decide (StringLiteral.Spells e.name name)
  rw [List.filter_append, hnone, List.append_nil] at hfilter
  rw [occursOnce_iff_filter, occursOnce_iff_filter]
  constructor
  · intro hone
    exact List.perm_singleton.mp (hone ▸ hfilter.symm)
  · intro hone
    exact List.perm_singleton.mp (hone ▸ hfilter)

end Occurs

section Taking

variable {α : Type} {shape : Shape α} {entries : List Entry} {m : Member}

theorem Member.name_injective : Function.Injective Member.name := by
  intro m n h
  cases m <;> cases n <;> first | rfl | exact absurd h (by decide)

theorem Member.ofName?_eq_some_iff {members : List Member} {name : String} :
    ofName? members name = some m ↔ m ∈ members ∧ m.name = name := by
  constructor
  · intro h
    exact ⟨List.mem_of_find?_eq_some h, by simpa using List.find?_some h⟩
  · rintro ⟨hm, rfl⟩
    cases hfind : ofName? members m.name with
    | none => exact absurd (List.find?_eq_none.mp hfind m hm) (by simp)
    | some k =>
      have hname : k.name = m.name := by simpa using List.find?_some hfind
      rw [name_injective hname]

/-- The entries turn what is known of a member into something else: nothing, if none of them has
its name, or the value of the only one that has, if none was known before. -/
def Taken (m : Member) (entries : List Entry) (known known' : Option m.Value) : Prop :=
  (known' = known ∧ ∀ e ∈ entries, ¬ StringLiteral.Spells e.name m.name)
    ∨ (known = none ∧ ∃ x, Holds entries m x ∧ known' = some x)

theorem taken_nil {known known' : Option m.Value} : Taken m [] known known' ↔ known' = known := by
  simp [Taken, Holds, OccursOnce]

theorem taken_cons_of_spells {e : Entry} (h : StringLiteral.Spells e.name m.name)
    {known known' : Option m.Value} :
    Taken m (e :: entries) known known'
      ↔ known = none ∧ ∃ x, Decodes m e.value x ∧ Taken m entries (some x) known' := by
  simp only [Taken, Holds, List.forall_mem_cons, h, not_true_eq_false, false_and, and_false,
    false_or, occursOnce_cons_of_spells h, reduceCtorEq, or_false]
  constructor
  · rintro ⟨hnone, x, ⟨_, ⟨rfl, hlater⟩, hdecodes⟩, hsome⟩
    exact ⟨hnone, x, hdecodes, hsome, hlater⟩
  · rintro ⟨hnone, x, hdecodes, hsome, hlater⟩
    exact ⟨hnone, x, ⟨e, ⟨rfl, hlater⟩, hdecodes⟩, hsome⟩

theorem taken_cons_of_not_spells {e : Entry} (h : ¬ StringLiteral.Spells e.name m.name)
    {known known' : Option m.Value} :
    Taken m (e :: entries) known known' ↔ Taken m entries known known' := by
  simp only [Taken, Holds, List.forall_mem_cons, h, not_false_eq_true, true_and,
    occursOnce_cons_of_not_spells h]

/-- An entry that is no member of the record changes nothing, and any other makes a new member
known. -/
theorem take_eq_ok_iff {e : Entry} {s : String} (hs : StringLiteral.Spells e.name s)
    {d d' : Draft} :
    d.take shape e = .ok d'
      ↔ (Member.ofName? shape.members s = none ∧ d' = d)
        ∨ ∃ k x, Member.ofName? shape.members s = some k ∧ d k = none ∧ Decodes k e.value x
          ∧ d' = d.set k x := by
  rw [Draft.take, Entry.nameText_of_spells hs, ok_bind, Draft.takeNamed]
  cases Member.ofName? shape.members s with
  | none => simp [eq_comm]
  | some k =>
    cases hknown : d k with
    | some y => simp [hknown]
    | none =>
      simp only [hknown, Option.isSome_none, Bool.false_eq_true, if_false, reduceCtorEq, false_and,
        Option.some.injEq, false_or]
      cases hvalue : e.valueOf k with
      | error f =>
        refine iff_of_false (fun heq => by cases heq) ?_
        rintro ⟨_, x, rfl, -, hx, -⟩
        rw [Entry.valueOf_eq_ok_iff.mpr hx] at hvalue
        cases hvalue
      | ok x =>
        have hdecodes : ∀ y, Decodes k e.value y ↔ y = x := fun y => by
          rw [← Entry.valueOf_eq_ok_iff, hvalue, Except.ok.injEq, eq_comm]
        constructor
        · intro heq
          exact ⟨k, x, rfl, hknown, (hdecodes x).mpr rfl, (Except.ok.inj heq).symm⟩
        · rintro ⟨_, y, rfl, -, hy, rfl⟩
          obtain rfl := (hdecodes y).mp hy
          rfl

/-- The entries are taken into a draft member by member, and entries that are no members of the
record are passed over. -/
theorem foldlM_take_eq_ok_iff (h : Spelled entries) {d d' : Draft} :
    entries.foldlM (Draft.take shape) d = .ok d'
      ↔ (∀ m ∈ shape.members, Taken m entries (d m) (d' m)) ∧ ∀ m ∉ shape.members, d' m = d m := by
  induction entries generalizing d with
  | nil =>
    simp only [taken_nil, List.foldlM_nil]
    constructor
    · intro heq
      obtain rfl := Except.ok.inj heq
      exact ⟨fun _ _ => rfl, fun _ _ => rfl⟩
    · rintro ⟨hmembers, hothers⟩
      refine congrArg Except.ok (funext fun m => ?_)
      by_cases hm : m ∈ shape.members
      · exact (hmembers m hm).symm
      · exact (hothers m hm).symm
  | cons e entries ih =>
    rw [Spelled, List.forall_mem_cons] at h
    obtain ⟨⟨s, hs⟩, hmore⟩ := h
    rw [List.foldlM_cons, except_bind_eq_ok]
    simp only [take_eq_ok_iff hs, ih hmore]
    -- the first entry is passed over, or it fills the one member whose name it spells
    cases hmember : Member.ofName? shape.members s with
    | none =>
      have hother : ∀ m ∈ shape.members, ¬ StringLiteral.Spells e.name m.name := by
        intro m hm hspells
        rw [Member.ofName?_eq_some_iff.mpr ⟨hm, hspells.unique hs⟩] at hmember
        cases hmember
      simp only [true_and, reduceCtorEq, false_and, exists_false, or_false, exists_eq_left]
      refine and_congr_left' (forall₂_congr fun m hm => ?_)
      rw [taken_cons_of_not_spells (hother m hm)]
    | some k =>
      obtain ⟨hk, rfl⟩ := Member.ofName?_eq_some_iff.mp hmember
      have hother : ∀ m ≠ k, ¬ StringLiteral.Spells e.name m.name := fun m hm hspells =>
        hm (Member.name_injective (hspells.unique hs))
      have hset : ∀ x, ∀ m ∉ shape.members, d.set k x m = d m := fun x m hm =>
        Draft.set_of_ne d x fun heq => hm (heq ▸ hk)
      simp only [reduceCtorEq, false_and, false_or]
      constructor
      · rintro ⟨_, ⟨_, x, heq, hnew, hx, rfl⟩, hmembers, hothers⟩
        obtain rfl := Option.some.inj heq
        refine ⟨fun m hm => ?_, fun m hm => (hothers m hm).trans (hset x m hm)⟩
        by_cases hmk : m = k
        · subst hmk
          rw [taken_cons_of_spells hs]
          exact ⟨hnew, x, hx, d.set_self m x ▸ hmembers m hm⟩
        · rw [taken_cons_of_not_spells (hother m hmk), ← Draft.set_of_ne d x hmk]
          exact hmembers m hm
      · rintro ⟨hmembers, hothers⟩
        obtain ⟨hnew, x, hx, htaken⟩ := (taken_cons_of_spells hs).mp (hmembers k hk)
        refine ⟨_, ⟨k, x, rfl, hnew, hx, rfl⟩, fun m hm => ?_,
          fun m hm => (hothers m hm).trans (hset x m hm).symm⟩
        by_cases hmk : m = k
        · subst hmk
          rwa [Draft.set_self]
        · rw [Draft.set_of_ne d x hmk, ← taken_cons_of_not_spells (hother m hmk)]
          exact hmembers m hm

theorem taken_none_some_iff {x : m.Value} :
    Taken m entries none (some x) ↔ Holds entries m x := by
  simp [Taken]

end Taking

/-- The object holds each member of the submission. -/
structure Submits (entries : List Entry) (new : NewMessage) : Prop where
  senderId : Holds entries .senderId new.senderId
  receiverId : Holds entries .receiverId new.receiverId
  body : Holds entries .body new.body
  type : Holds entries .type new.type

namespace NewMessage

variable {entries : List Entry} {document : Bytes} {new : NewMessage}

theorem finish_eq_ok_iff {d : Draft} :
    d.finish shape = .ok new
      ↔ d .senderId = some new.senderId ∧ d .receiverId = some new.receiverId
        ∧ d .body = some new.body ∧ d .type = some new.type := by
  rw [Draft.finish, mapError_eq_ok_iff, buildRecord]
  obtain ⟨senderId, receiverId, body, type⟩ := new
  cases hsender : d .senderId <;> cases hreceiver : d .receiverId <;> cases hbody : d .body <;>
    cases htype : d .type <;> simp [shape, hsender, hreceiver, hbody, htype]

def toDraft (new : NewMessage) : Draft :=
  (((Draft.empty.set .senderId new.senderId).set .receiverId new.receiverId).set .body
    new.body).set .type new.type

theorem recordOf_eq_ok_iff (hnames : Spelled entries) :
    recordOf shape entries = .ok new ↔ Submits entries new := by
  rw [recordOf, except_bind_eq_ok]
  simp only [foldlM_take_eq_ok_iff hnames, finish_eq_ok_iff, Draft.empty_apply]
  constructor
  · rintro ⟨d, ⟨hmembers, -⟩, hsender, hreceiver, hbody, htype⟩
    exact {
      senderId := taken_none_some_iff.mp (hsender ▸ hmembers .senderId (by decide))
      receiverId := taken_none_some_iff.mp (hreceiver ▸ hmembers .receiverId (by decide))
      body := taken_none_some_iff.mp (hbody ▸ hmembers .body (by decide))
      type := taken_none_some_iff.mp (htype ▸ hmembers .type (by decide)) }
  · rintro ⟨hsender, hreceiver, hbody, htype⟩
    refine ⟨new.toDraft, ⟨fun m hm => ?_, fun m hm => ?_⟩, rfl, rfl, rfl, rfl⟩
    · cases m with
      | senderId => exact taken_none_some_iff.mpr hsender
      | receiverId => exact taken_none_some_iff.mpr hreceiver
      | body => exact taken_none_some_iff.mpr hbody
      | type => exact taken_none_some_iff.mpr htype
      | messageId | createdAt | hasRead => exact absurd hm (by decide)
    · cases m with
      | senderId | receiverId | body | type => exact absurd (by decide) hm
      | messageId | createdAt | hasRead => rfl

/-- An object is a submission exactly if each member of it occurs once with the value that it has. -/
theorem ofJson_eq_ok_iff (h : WritesObject entries document) (hnames : Spelled entries) :
    ofJson document = .ok new ↔ Submits entries new := by
  rw [ofJson, ← unplaced_eq_ok_iff, unplaced_readDocument_object h, recordOf_eq_ok_iff hnames]

end NewMessage

/-- The members are the same in some order, along with any that are no members of a submission. -/
def Reshaped (entries entries' : List Entry) : Prop :=
  ∃ more, entries'.Perm (entries ++ more)
    ∧ ∀ e ∈ more, ∀ m ∈ NewMessage.shape.members, ¬ StringLiteral.Spells e.name m.name

theorem Reshaped.holds_iff {entries entries' : List Entry} (h : Reshaped entries entries')
    {m : Member} (hm : m ∈ NewMessage.shape.members) {x : m.Value} :
    Holds entries' m x ↔ Holds entries m x := by
  obtain ⟨more, hperm, hmore⟩ := h
  exact exists_congr fun e =>
    and_congr_left' (occursOnce_of_perm hperm fun e' he' => hmore e' he' m hm)

theorem Reshaped.submits_iff {entries entries' : List Entry} (h : Reshaped entries entries')
    {new : NewMessage} : Submits entries' new ↔ Submits entries new := by
  have hsender := @Reshaped.holds_iff _ _ h .senderId (by decide) new.senderId
  have hreceiver := @Reshaped.holds_iff _ _ h .receiverId (by decide) new.receiverId
  have hbody := @Reshaped.holds_iff _ _ h .body (by decide) new.body
  have htype := @Reshaped.holds_iff _ _ h .type (by decide) new.type
  constructor
  · intro hnew
    exact ⟨hsender.mp hnew.senderId, hreceiver.mp hnew.receiverId, hbody.mp hnew.body,
      htype.mp hnew.type⟩
  · intro hnew
    exact ⟨hsender.mpr hnew.senderId, hreceiver.mpr hnew.receiverId, hbody.mpr hnew.body,
      htype.mpr hnew.type⟩

end Messaging
