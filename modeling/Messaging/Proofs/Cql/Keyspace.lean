import Messaging.Config.Setting
import Messaging.Keyspace
import Messaging.Proofs.Cql.Lexis
import Messaging.Proofs.Cql.Script
import Messaging.Proofs.Text.Utf8

/-!
What a name of a keyspace means. A name stands in two statements, as it is in the one that creates
the keyspace and quoted in the one that selects it; in each it is read as one token, and both name
the same keyspace.
-/
namespace Messaging.Keyspace

open Cql Cql.Lexis

def IsLetter (c : Char) : Prop := ('a' ≤ c ∧ c ≤ 'z') ∨ ('A' ≤ c ∧ c ≤ 'Z')

def IsDigit (c : Char) : Prop := '0' ≤ c ∧ c ≤ '9'

/-- One to 48 letters, digits and underscores, the first of them a letter. -/
structure IsPlain (v : String) : Prop where
  bounded : 1 ≤ v.length ∧ v.length ≤ 48
  leads : ∀ c cs, v.toList = c :: cs → IsLetter c
  plain : ∀ c ∈ v.toList, IsLetter c ∨ IsDigit c ∨ c = '_'

theorem isAlpha_iff (c : Char) : c.isAlpha = true ↔ IsLetter c := by
  simp only [Char.isAlpha, Char.isUpper, Char.isLower, Bool.or_eq_true, Bool.and_eq_true,
    decide_eq_true_eq, IsLetter, Char.le_def, ge_iff_le, Or.comm]

theorem isDigit_iff (c : Char) : c.isDigit = true ↔ IsDigit c := by
  simp only [Char.isDigit, Bool.and_eq_true, decide_eq_true_eq, IsDigit, Char.le_def, ge_iff_le]

theorem isNameChar_iff (c : Char) :
    isNameChar c = true ↔ IsLetter c ∨ IsDigit c ∨ c = '_' := by
  rw [isNameChar, Bool.or_eq_true, Char.isAlphanum, Bool.or_eq_true, isAlpha_iff, isDigit_iff,
    decide_eq_true_eq, or_assoc]

theorem isName_iff (v : String) : isName v = true ↔ IsPlain v := by
  have hlength := v.length_toList
  simp only [isName, Bool.and_eq_true, decide_eq_true_eq, List.all_eq_true, isNameChar_iff]
  cases hv : v.toList with
  | nil =>
    refine ⟨fun h => by simp at h, fun h => ?_⟩
    have hpos := h.bounded.1
    rw [← hlength, hv] at hpos
    exact absurd hpos (by simp)
  | cons c cs =>
    rw [List.head?_cons, Option.any_some, isAlpha_iff, ← hv, hlength]
    constructor
    · rintro ⟨⟨hleads, hbound⟩, hplain⟩
      refine ⟨⟨by simp [← hlength, hv], hbound⟩, fun d ds hd => ?_, hplain⟩
      rw [hv, List.cons.injEq] at hd
      exact hd.1 ▸ hleads
    · intro h
      exact ⟨⟨h.leads c cs hv, h.bounded.2⟩, h.plain⟩

theorem IsPlain.utf8ByteSize {v : String} (h : IsPlain v) : v.utf8ByteSize = v.length := by
  have hsize : ∀ c ∈ v.toList, c.utf8Size = 1 := by
    intro c hc
    rw [Char.utf8Size_eq_one_iff]
    rcases h.plain c hc with (⟨-, hle⟩ | ⟨-, hle⟩) | ⟨-, hle⟩ | rfl
    · exact UInt32.le_trans hle (by decide)
    · exact UInt32.le_trans hle (by decide)
    · exact UInt32.le_trans hle (by decide)
    · decide
  calc v.utf8ByteSize = (String.ofList v.toList).utf8ByteSize := by rw [String.ofList_toList]
    _ = v.length := by rw [Utf8.utf8ByteSize_of_utf8Size hsize, String.length_toList]

theorem isNameChar_foldChar {c : Char} (h : isNameChar c = true) :
    isNameChar (foldChar c) = true := by
  by_cases hupper : c.isUpper = true
  · -- a capital letter becomes a small one
    have hlower : (foldChar c).isLower = true := by
      rw [foldChar, Char.isLower_toLower_eq_isAlpha, Char.isAlpha, hupper, Bool.true_or]
    rw [isNameChar, Char.isAlphanum, Char.isAlpha, hlower, Bool.or_true, Bool.true_or, Bool.true_or]
  · rwa [foldChar, Char.toLower_eq_of_not_isUpper hupper]

theorem map_foldChar_map_foldChar (cs : List Char) :
    (cs.map foldChar).map foldChar = cs.map foldChar := by
  rw [List.map_map]
  exact List.map_congr_left fun c _ => Char.toLower_toLower_eq_toLower c

theorem ofList_map_foldChar (v : String) : String.ofList (v.toList.map foldChar) = v.toLower := by
  apply String.toList_injective
  rw [String.toList_ofList, String.toLower, String.toList_map]
  rfl

theorem isName_toLower {v : String} (h : isName v = true) : isName v.toLower = true := by
  rw [← ofList_map_foldChar]
  simp only [isName, Bool.and_eq_true, decide_eq_true_eq, List.all_eq_true,
    String.toList_ofList, List.length_map, List.forall_mem_map] at h ⊢
  refine ⟨⟨?_, h.1.2⟩, fun c hc => isNameChar_foldChar (h.2 c hc)⟩
  cases hv : v.toList with
  | nil => simp [hv] at h
  | cons c cs =>
    rw [hv] at h
    simpa [foldChar] using h.1.1

theorem read?_eq_some_iff {v k : String} : read? v = some k ↔ isName v = true ∧ k = v.toLower := by
  rw [read?, ofList_map_foldChar]
  cases isName v with
  | true => simp [eq_comm]
  | false => simp

theorem read?_of_read? {v k : String} (h : read? v = some k) : read? k = some k := by
  obtain ⟨hname, rfl⟩ := read?_eq_some_iff.mp h
  refine read?_eq_some_iff.mpr ⟨isName_toLower hname, ?_⟩
  rw [← ofList_map_foldChar, ← ofList_map_foldChar, String.toList_ofList, map_foldChar_map_foldChar]

section Statements

variable {k : String}

/-- What stands after the name in the statement that creates a keyspace. -/
def replication : List Token :=
  [.keyword "with", .identifier "replication", .symbol '=', .symbol '\x7b', .text "class",
    .symbol ':', .text "SimpleStrategy", .symbol ',', .text "replication_factor", .symbol ':',
    .constant "1", .symbol '\x7d']

/-- The parts of the statement that creates a keyspace. Only the word of the name varies. -/
def creation (k : String) : List Token := Command.creationLead ++ Token.ofWord k :: replication

/-- The parts of the statement that selects a keyspace. -/
def selection (k : String) : List Token := [.keyword "use", .quotedName k]

def simpleStrategy : List (String × String) :=
  [("class", "SimpleStrategy"), ("replication_factor", "1")]

/-- A name that reads as itself begins with a letter, and keeps its spelling when it is folded. -/
theorem exists_toList_of_read? (h : read? k = some k) :
    ∃ c cs, k.toList = c :: cs ∧ c.isAlpha = true ∧ (∀ d ∈ k.toList, isWordChar d = true)
      ∧ k.toList.map Char.toLower = k.toList := by
  obtain ⟨hname, hfold⟩ := read?_eq_some_iff.mp h
  have hmap : k.toList.map Char.toLower = k.toList := by
    conv_rhs => rw [hfold, String.toLower, String.toList_map]
  simp only [isName, Bool.and_eq_true, List.all_eq_true] at hname
  cases hk : k.toList with
  | nil => simp [hk] at hname
  | cons c cs =>
    rw [hk] at hname hmap
    exact ⟨c, cs, rfl, by simpa using hname.1.1, hname.2, hmap⟩

theorem wordOf_reverse (h : read? k = some k) : wordOf k.toList.reverse = .ofWord k := by
  obtain ⟨-, -, -, -, -, hfold⟩ := exists_toList_of_read? h
  rw [wordOf, List.reverse_reverse, hfold, String.ofList_toList]

/-- A name that stands between a part of a statement and a blank is one word of the statement. -/
theorem tokens?_word_between (h : read? k = some k) {lead rest : String} {cs : List Char}
    {before after : List Token} (hlead : readFrom .between lead.toList = some (.between, before))
    (hblank : rest.toList = ' ' :: cs)
    (hrest : readFrom .between cs = some (.between, after)) :
    tokens? (lead ++ k ++ rest) = some (before ++ .ofWord k :: after) := by
  obtain ⟨c, ds, hk, hletter, hword, -⟩ := exists_toList_of_read? h
  have hname : readFrom .between k.toList = some (.word k.toList.reverse, []) := by
    rw [hk] at hword ⊢
    exact readFrom_of_isAlpha hletter fun d hd => hword d (List.mem_cons_of_mem c hd)
  have hread := readFrom_append hlead (readFrom_append hname (readFrom_word_blank hrest))
  rw [wordOf_reverse h, ← hblank, ← List.append_assoc, ← String.toList_append,
    ← String.toList_append] at hread
  have hfinish : finish .between = some [] := rfl
  rw [tokens?_eq_some hread hfinish, List.append_nil]
  rfl

theorem tokens?_createKeyspace (h : read? k = some k) :
    tokens? (Statement.createKeyspace k) = some (creation k) := by
  have hrest : readFrom .between
      "WITH replication = \x7b'class': 'SimpleStrategy', 'replication_factor': 1\x7d".toList
      = some (.between, replication) := by
    decide +kernel
  exact tokens?_word_between h Command.readFrom_creationLead (by decide +kernel) hrest

theorem tokens?_use (h : read? k = some k) : tokens? (Statement.use k) = some (selection k) := by
  obtain ⟨-, -, -, -, hword, -⟩ := exists_toList_of_read? h
  have hquote : '"' ∉ k.toList := fun hmem => absurd (hword _ hmem) (by decide)
  have hmark : readFrom (.quotedName k.toList.reverse) "\"".toList
      = some (.quotedNameMark k.toList.reverse, []) :=
    rfl
  have hname := readFrom_quotedName hquote []
  rw [List.append_nil] at hname
  have hread := readFrom_append Command.readFrom_use (readFrom_append hname hmark)
  have hparts : (Statement.use k).toList = "USE \"".toList ++ (k.toList ++ "\"".toList) := by
    simp only [Statement.use, String.toList_append, List.append_assoc]
  rw [← hparts] at hread
  have hspelled : spelled k.toList.reverse = k := by
    rw [spelled, List.reverse_reverse, String.ofList_toList]
  have hfinish : finish (.quotedNameMark k.toList.reverse) = some [.quotedName k] := by
    rw [finish, hspelled]
  exact tokens?_eq_some hread hfinish

theorem ofTokens?_creation (k : String) :
    Command.ofTokens? (creation k)
      = (Token.ofWord k).name?.map fun name => .createKeyspace true name simpleStrategy := by
  rw [creation]
  cases Token.ofWord k <;> rfl

theorem read?_createKeyspace (h : read? k = some k) :
    Command.read? (Statement.createKeyspace k)
      = if isReserved k then none else some (.createKeyspace true k simpleStrategy) := by
  rw [Command.read?, tokens?_createKeyspace h, Option.bind_some, ofTokens?_creation, Token.ofWord]
  split <;> rfl

-- what is not a name may end the statement and begin another
example : Command.read? (Statement.createKeyspace "x; DROP KEYSPACE y") = none := by decide +kernel

theorem read?_use (h : read? k = some k) :
    Command.read? (Statement.use k) = some (.use k) := by
  rw [Command.read?, tokens?_use h, Option.bind_some]
  rfl

theorem created?_eq (h : read? k = some k) :
    Server.created? k = if isReserved k then none else some k := by
  rw [Server.created?, read?_createKeyspace h]
  cases isReserved k <;> rfl

theorem createKeyspace_injective : Function.Injective Statement.createKeyspace := by
  intro k l h
  have hcancel : ∀ lead rest : String, lead ++ k ++ rest = lead ++ l ++ rest → k = l :=
    fun lead rest => by simp
  exact hcancel _ _ h

theorem checkKeyspaceName_of_read? (h : read? k = some k) : checkKeyspaceName k = .ok () := by
  obtain ⟨hname, -⟩ := read?_eq_some_iff.mp h
  have hplain := (isName_iff k).mp hname
  simp only [isName, Bool.and_eq_true, List.all_eq_true] at hname
  have hempty : ¬ k.isEmpty = true := fun hempty => by
    have hpos := hplain.bounded.1
    simp_all
  have hlong : ¬ maxLength < k.length := Nat.not_lt.mpr hplain.bounded.2
  have hfind : (k.toList.find? fun c => !isNameChar c) = none := by
    rw [List.find?_eq_none]
    exact fun c hc => by simp [hname.2 c hc]
  rw [checkKeyspaceName, if_neg hempty, if_neg hlong, hfind]

theorem received_useKeyspace (h : read? k = some k) (s : Server) :
    (useKeyspace k s).server.received = s.received ++ [.use k] := by
  have hreceived := s.received_receive none (.use k)
  rw [useKeyspace, checkKeyspaceName_of_read? h]
  rcases hreceive : s.receive none (.use k) with ⟨_ | _, t⟩ <;> simpa [hreceive] using hreceived

end Statements

theorem readKeyspace_eq_ok_iff {v k : String} :
    Config.readKeyspace v = .ok k ↔ read? v = some k := by
  rw [Config.readKeyspace]
  cases read? v <;> simp

theorem perform_use (h : read? k = some k) (s : Server) (current : Option String) :
    (s.perform current (.use k)).1
      = if (s.keyspace? k).isSome then .ok .done else .error (Server.noKeyspace k) := by
  have hcarry := Server.carryOut_of_read? (q := .use k) (by simp) (read?_use h) s current
  rw [Server.perform, hcarry]
  simp only [Request.isPrepare, Bool.false_eq_true, if_false, Server.execute]
  cases (s.keyspace? k).isSome <;> rfl

theorem perform_createKeyspace_of_isReserved (h : read? k = some k)
    (hreserved : isReserved k = true) (s : Server) (current : Option String) :
    s.perform current (.createKeyspace k) = (.error Server.syntaxError, s) := by
  have hnone : Command.read? (Request.createKeyspace k).statement = none := by
    rw [Request.statement, read?_createKeyspace h, if_pos hreserved]
  exact Server.perform_of_error (Server.carryOut_of_read?_none (by simp) hnone s current)

theorem perform_createKeyspace (h : read? k = some k) (hfree : isReserved k = false) (s : Server)
    (current : Option String) :
    (s.perform current (.createKeyspace k)).1 = .ok .done
      ∧ ∀ name, ((s.perform current (.createKeyspace k)).2.keyspace? name).isSome = true
        ↔ name = k ∨ (s.keyspace? name).isSome = true := by
  have hcreated : Server.created? k = some k := by rw [created?_eq h, hfree]; rfl
  rw [Server.perform_createKeyspace_of_some hcreated]
  refine ⟨rfl, fun name => ?_⟩
  dsimp only
  split
  · rename_i hthere
    exact ⟨.inr, fun hname => hname.elim (fun hk => hk ▸ hthere) id⟩
  · rw [Server.isSome_keyspace?_adding, eq_comm]

theorem result_bootstrap_of_isReserved (h : read? k = some k) (hreserved : isReserved k = true)
    {s : Server} (hfails : s.fails (.createKeyspace k) = none) :
    (bootstrap k s).result = .error (.schema (.createKeyspace k Server.syntaxError)) := by
  rw [bootstrap, Server.receive_of_carried hfails, perform_createKeyspace_of_isReserved h hreserved]

/-- How a text and the name that it is read as go together. -/
structure Means (v k : String) : Prop where
  /-- It does not matter whether characters or bytes are counted. -/
  length : v.utf8ByteSize = v.length
  folded : k = v.toLower
  stable : Config.readKeyspace k = .ok k
  /-- The statement has no part that the name could add to or take from: the name is one word. -/
  creation : tokens? (Request.createKeyspace k).statement = some (creation k)
  /-- Another name is in another statement. -/
  distinct : ∀ w l, Config.readKeyspace w = .ok l → l ≠ k →
    Statement.createKeyspace l ≠ Statement.createKeyspace k
  /-- The keyspace is asked for in one request. -/
  asked : ∀ s : Server, (useKeyspace k s).server.received = s.received ++ [.use k]
  /-- It is the keyspace of just this name that is selected; the case of a quoted name counts. -/
  selects : Command.read? (Request.use k).statement = some (.use k)
    ∧ ∀ (s : Server) (current : Option String),
        (s.perform current (.use k)).1 = .ok .done ↔ (s.keyspace? k).isSome = true
  /-- It is the same keyspace that is created, unless the word is reserved. -/
  creates : isReserved k = false →
    Command.read? (Request.createKeyspace k).statement
        = some (.createKeyspace true k simpleStrategy)
      ∧ ∀ (s : Server) (current : Option String),
        (s.perform current (.createKeyspace k)).1 = .ok .done
          ∧ ∀ name, ((s.perform current (.createKeyspace k)).2.keyspace? name).isSome = true
            ↔ name = k ∨ (s.keyspace? name).isSome = true
  /-- A reserved word that is not quoted names nothing: nothing is created, and nothing can be made
  ready. -/
  refused : isReserved k = true →
    Command.read? (Request.createKeyspace k).statement = none
      ∧ ∀ s : Server, (∀ current, s.perform current (.createKeyspace k)
          = (.error Server.syntaxError, s))
        ∧ (s.fails (.createKeyspace k) = none → (bootstrap k s).result
          = .error (.schema (.createKeyspace k Server.syntaxError)))

theorem means_of_read? {v k : String} (hv : read? v = some k) : Means v k := by
  obtain ⟨hname, hfold⟩ := read?_eq_some_iff.mp hv
  have hk := read?_of_read? hv
  exact {
    length := ((isName_iff v).mp hname).utf8ByteSize
    folded := hfold
    stable := readKeyspace_eq_ok_iff.mpr hk
    creation := tokens?_createKeyspace hk
    distinct := fun _ _ _ hne h => hne (createKeyspace_injective h)
    asked := received_useKeyspace hk
    selects := ⟨read?_use hk, fun s current => by
      rw [perform_use hk]
      cases (s.keyspace? k).isSome <;> simp⟩
    creates := fun hfree =>
      ⟨by rw [Request.statement, read?_createKeyspace hk, hfree]; rfl,
        perform_createKeyspace hk hfree⟩
    refused := fun hreserved =>
      ⟨by rw [Request.statement, read?_createKeyspace hk, if_pos hreserved],
        fun s => ⟨perform_createKeyspace_of_isReserved hk hreserved s,
          result_bootstrap_of_isReserved hk hreserved⟩⟩ }

/-- Exactly the plain names are read, and what is read has one meaning in all statements, unless it
is a reserved word; and all reserved words are read as names. -/
theorem readKeyspace_means (v : String) :
    ((∃ k, Config.readKeyspace v = .ok k) ↔ IsPlain v)
      ∧ (∀ k, Config.readKeyspace v = .ok k → Means v k)
      ∧ (isReserved v = true → Config.readKeyspace v = .ok v) := by
  simp only [readKeyspace_eq_ok_iff, ← isName_iff]
  refine ⟨by simp [read?_eq_some_iff], fun k => means_of_read?, fun hreserved => ?_⟩
  have hall : ∀ w ∈ reservedWords, read? w = some w := by decide +kernel
  exact hall v (by simpa [isReserved] using hreserved)

/-- A name with capital letters and an underscore. -/
theorem chat_v2_means :
    Config.readKeyspace "Chat_V2" = .ok "chat_v2" ∧ Means "Chat_V2" "chat_v2" := by
  have h : Config.readKeyspace "Chat_V2" = .ok "chat_v2" :=
    readKeyspace_eq_ok_iff.mpr (by decide)
  exact ⟨h, (readKeyspace_means "Chat_V2").2.1 _ h⟩

/-- A reserved word is read as a name, and a keyspace of that name can be selected but not created:
the word that stands in the place of the name is no identifier. -/
theorem select_not_created :
    Config.readKeyspace "select" = .ok "select"
      ∧ tokens? (Request.createKeyspace "select").statement
        = some (Command.creationLead ++ .keyword "select" :: replication)
      ∧ Command.read? (Request.createKeyspace "select").statement = none
      ∧ Command.read? (Request.use "select").statement = some (.use "select") := by
  have h : read? "select" = some "select" := by decide
  refine ⟨readKeyspace_eq_ok_iff.mpr h, tokens?_createKeyspace h, ?_, read?_use h⟩
  rw [Request.statement, read?_createKeyspace h, if_pos (by decide)]

end Messaging.Keyspace
