import Messaging.Proofs.Config.Replacement
import Messaging.Proofs.Number.Bounded

/-!
Settings that are numbers. Each takes the texts that denote a number within its bounds, wherever
they come from, and is then that number; any other text is refused, and none is taken for another
number.
-/
namespace Messaging.Config

open Bounded

theorem readPort_eq_ok_iff {s : String} {v : UInt16} :
    readPort s = .ok v ↔ Denotes ['+', '-'] s.toList v.toNat := by
  have hread : readPort s = .ok v
      ↔ ∃ n, readSigned (greatestInt64 + 1) greatestInt64 (Utf8.ofString s) = .ok n
        ∧ (0 ≤ n ∧ n ≤ 65535) ∧ UInt16.ofNat n.toNat = v := by
    rw [readPort]
    cases readSigned (greatestInt64 + 1) greatestInt64 (Utf8.ofString s) with
    | error fault => simp
    | ok n => by_cases hrange : 0 ≤ n ∧ n ≤ 65535 <;> simp [hrange]
  simp only [hread, Utf8.ofString, readSigned_eq_ok_iff]
  constructor
  · rintro ⟨n, ⟨hdenotes, -⟩, ⟨hlow, hhigh⟩, rfl⟩
    have hvalue : ((UInt16.ofNat n.toNat).toNat : Int) = n := by
      rw [UInt16.toNat_ofNat']
      omega
    rwa [hvalue]
  · intro hdenotes
    have hlt := v.toNat_lt
    refine ⟨v.toNat, ⟨hdenotes, ?_⟩, ?_, by simp⟩
    · simp only [greatestInt64]
      omega
    · omega

/-- The texts that are read as a count of seconds are those that denote it without a minus. -/
theorem readSeconds_eq_ok_iff {s : String} {v : UInt64} :
    readSeconds s = .ok v ↔ Denotes ['+'] s.toList v.toNat := by
  have hread : readSeconds s = .ok v
      ↔ ∃ n, readUnsigned greatestUInt64 (Utf8.ofString s) = .ok n ∧ UInt64.ofNat n = v := by
    rw [readSeconds]
    cases readUnsigned greatestUInt64 (Utf8.ofString s) <;> simp
  simp only [hread, Utf8.ofString, readUnsigned_eq_ok_iff]
  constructor
  · rintro ⟨n, ⟨hdenotes, hle⟩, rfl⟩
    have hvalue : (UInt64.ofNat n).toNat = n := by
      rw [UInt64.toNat_ofNat']
      simp only [greatestUInt64] at hle
      omega
    rwa [hvalue]
  · intro hdenotes
    have hlt := v.toNat_lt
    refine ⟨v.toNat, ⟨hdenotes, ?_⟩, by simp⟩
    simp only [greatestUInt64]
    omega

theorem readText_ofString {α : Type} (reader : String → Except Refusal α) (s : String) :
    readText reader (Utf8.ofString s) = (reader s).mapError (.refused s) := by
  rw [readText, Utf8.toString?_ofString]

/-- Where a setting has a reader of texts, a text that the reader refuses is told to the user. -/
theorem readValue_ofString {o : Setting} {reader : String → Except Refusal o.Value}
    (h : o.read = readText reader) (s : String) :
    o.readValue (Utf8.ofString s)
      = (reader s).mapError fun reason => .usage (.refused o s reason) := by
  rw [Setting.readValue, h, readText_ofString]
  cases reader s <;> rfl

end Messaging.Config

namespace Messaging.Settings

open Config Bounded Decimal

variable {o : Setting}

/-- What becomes of a text in a place for a number below a bound, where `c₀` is the configuration
with some other text there. -/
structure TakenAsNumber (p : Place o) (s : String) (c₀ : Settings) (toNat : o.Value → Nat)
    (signs : List Char) (bound : Nat) : Prop where
  /-- A configuration is loaded exactly if the text denotes such a number. -/
  loads : (∃ c, p.load s = .ok c) ↔ ∃ n : Nat, n < bound ∧ Denotes signs s.toList n
  /-- The setting is then the number that the text denotes, and all others are what they were. -/
  number : ∀ c, p.load s = .ok c →
    (∃ v, c.toGiven o = some v ∧ ∀ n, Denotes signs s.toList n ↔ n = toNat v)
      ∧ ∀ k, k ≠ o → c.toGiven k = c₀.toGiven k
  /-- Any other text is refused as a value of the setting. -/
  refused : (¬ ∃ n : Nat, n < bound ∧ Denotes signs s.toList n) →
    ∃ reason, p.load s = .error (.usage (.refused o s reason))

theorem TakenAsNumber.exists_load {p : Place o} {s : String} {c₀ : Settings}
    {toNat : o.Value → Nat} {signs : List Char} {bound n : Nat}
    (h : TakenAsNumber p s c₀ toNat signs bound) (hn : n < bound)
    (hdenotes : Denotes signs s.toList n) :
    ∃ c v, p.load s = .ok c ∧ c.toGiven o = some v ∧ toNat v = n
      ∧ ∀ k, k ≠ o → c.toGiven k = c₀.toGiven k := by
  obtain ⟨c, hc⟩ := h.loads.mpr ⟨n, hn, hdenotes⟩
  obtain ⟨⟨v, hv, hnumber⟩, hothers⟩ := h.number c hc
  exact ⟨c, v, hc, hv, (Int.ofNat.inj ((hnumber n).mp hdenotes)).symm, hothers⟩

/-- A setting takes the numbers below a bound, and each of them from all texts that denote it. -/
structure TakesNumbers (o : Setting) (toNat : o.Value → Nat) (signs : List Char) (bound : Nat) :
    Prop where
  /-- A text is read as the number that it denotes. -/
  reads : ∀ (s : String) (v : o.Value),
    o.read (Utf8.ofString s) = .ok v ↔ Denotes signs s.toList (toNat v)
  /-- Wherever some text is loaded from a place, so that all else is in order, any text is taken
  there if it denotes such a number. -/
  taken : ∀ (p : Place o) (s₀ s : String) (c₀ : Settings), p.load s₀ = .ok c₀ → p.Holds s →
    TakenAsNumber p s c₀ toNat signs bound

section Reading

variable {toNat : o.Value → Nat} {signs : List Char} {bound : Nat}
  {reader : String → Except Refusal o.Value}

theorem exists_read_iff (hreader : ∀ s v, reader s = .ok v ↔ Denotes signs s.toList (toNat v))
    (hbound : ∀ n, n < bound ↔ ∃ v, toNat v = n) (s : String) :
    (∃ v, reader s = .ok v) ↔ ∃ n : Nat, n < bound ∧ Denotes signs s.toList n := by
  constructor
  · rintro ⟨v, hv⟩
    exact ⟨toNat v, (hbound _).mpr ⟨v, rfl⟩, (hreader s v).mp hv⟩
  · rintro ⟨n, hn, hdenotes⟩
    obtain ⟨v, rfl⟩ := (hbound n).mp hn
    exact ⟨v, (hreader s v).mpr hdenotes⟩

theorem takesNumbers_of_reader (hread : o.read = readText reader)
    (hreader : ∀ s v, reader s = .ok v ↔ Denotes signs s.toList (toNat v))
    (hbound : ∀ n, n < bound ↔ ∃ v, toNat v = n) : TakesNumbers o toNat signs bound where
  reads s v := by
    rw [hread, readText_ofString, mapError_eq_ok_iff]
    exact hreader s v
  taken p s₀ s c₀ h hs := by
    have hload := load_replaced h hs
    rw [readValue_ofString hread] at hload
    refine ⟨?_, fun c hc => ?_, fun hnone => ?_⟩
    · rw [hload, ← exists_read_iff hreader hbound]
      cases reader s <;> simp [Except.mapError, Except.map]
    · obtain ⟨v, hv, rfl⟩ := map_eq_ok_iff.mp (hload.symm.trans hc)
      have hdenotes := (hreader s v).mp (mapError_eq_ok_iff.mp hv)
      rw [toGiven_set]
      refine ⟨⟨v, Given.set_self .., fun n => ⟨fun hn => hn.unique hdenotes, ?_⟩⟩,
        fun k hk => Given.set_of_ne _ v hk⟩
      rintro rfl
      exact hdenotes
    · rw [← exists_read_iff hreader hbound] at hnone
      cases hcase : reader s with
      | ok v => exact absurd ⟨v, hcase⟩ hnone
      | error reason => exact ⟨reason, by rw [hload, hcase]; rfl⟩

end Reading

/-- The ports take the texts that denote a number of 16 bits, with either sign or none, and the time
to stop takes those that denote one of 64 bits, with a plus or no sign. Any other text is refused,
and none is taken for a number that it does not denote. -/
theorem numbers_within_bounds :
    TakesNumbers .port UInt16.toNat ['+', '-'] (2 ^ 16)
      ∧ TakesNumbers .dbPort UInt16.toNat ['+', '-'] (2 ^ 16)
      ∧ TakesNumbers .shutdownTimeout UInt64.toNat ['+'] (2 ^ 64) := by
  have hport (n : Nat) : n < 2 ^ 16 ↔ ∃ v : UInt16, v.toNat = n :=
    ⟨fun hn => ⟨UInt16.ofNat n, UInt16.toNat_ofNat_of_lt' hn⟩, fun ⟨v, hv⟩ => hv ▸ v.toNat_lt⟩
  have hseconds (n : Nat) : n < 2 ^ 64 ↔ ∃ v : UInt64, v.toNat = n :=
    ⟨fun hn => ⟨UInt64.ofNat n, UInt64.toNat_ofNat_of_lt' hn⟩, fun ⟨v, hv⟩ => hv ▸ v.toNat_lt⟩
  exact ⟨takesNumbers_of_reader rfl (fun _ _ => readPort_eq_ok_iff) hport,
    takesNumbers_of_reader rfl (fun _ _ => readPort_eq_ok_iff) hport,
    takesNumbers_of_reader rfl (fun _ _ => readSeconds_eq_ok_iff) hseconds⟩

/-- The port has its place among other words, before the end of the options, and its variable is no
number. -/
def portPlace : Place .port :=
  .onCommandLine (Utf8.ofString "ism-server") [Utf8.ofString "--db-host", Utf8.ofString "scylla"]
    [Utf8.ofString "--"] (Function.update (fun _ => none) "PORT" (some "closed"))

/-- The time to stop has its place in an environment where nothing else is set. -/
def timePlace : Place .shutdownTimeout :=
  .inEnvironment [Utf8.ofString "ism-server"] (fun _ => none) (by simp)

theorem exists_load_of_isOk {p : Place o} {s : String} (h : (p.load s).isOk = true) :
    ∃ c, p.load s = .ok c := by
  cases hload : p.load s with
  | error stop => simp [hload, Except.isOk, Except.toBool] at h
  | ok c => exact ⟨c, rfl⟩

/-- A zero is a port also with a minus before it and more zeros after it, and the number after the
greatest port is refused. The greatest number of seconds may have a plus and zeros before it. -/
theorem signedZero_loaded :
    (∃ c₀ c reason, portPlace.load "8080" = .ok c₀ ∧ portPlace.load "-00" = .ok c
      ∧ c.server.port = 0 ∧ c.database.host = c₀.database.host
      ∧ portPlace.load "65536" = .error (.usage (.refused .port "65536" reason)))
    ∧ ∃ c₀ c, timePlace.load "10" = .ok c₀ ∧ timePlace.load "+0018446744073709551615" = .ok c
      ∧ c.server.shutdownTimeoutSecs = 18446744073709551615 := by
  obtain ⟨⟨-, hports⟩, -, -, hseconds⟩ := numbers_within_bounds
  constructor
  · obtain ⟨c₀, hc₀⟩ : ∃ c₀, portPlace.load "8080" = .ok c₀ :=
      exists_load_of_isOk (by decide +kernel)
    have hzero : Denotes ['+', '-'] "-00".toList 0 := by
      have hnumeral : IsNumeral ['0', '0'] := ⟨by simp, by simp⟩
      exact .minus (by decide) hnumeral
    have hbeyond : Denotes ['+', '-'] "65536".toList 65536 := by
      have hnumeral : IsNumeral ['6', '5', '5', '3', '6'] := ⟨by simp, by simp⟩
      exact .unsigned hnumeral
    obtain ⟨c, v, hc, hv, hzeroValue, hothers⟩ :=
      (hports portPlace "8080" "-00" c₀ hc₀ trivial).exists_load (n := 0) (by decide) hzero
    have hport : c.server.port = v := Option.some.inj hv
    have hnone : ¬ ∃ n : Nat, n < 2 ^ 16 ∧ Denotes ['+', '-'] "65536".toList n := by
      rintro ⟨n, hn, hdenotes⟩
      have hsame := hdenotes.unique hbeyond
      omega
    obtain ⟨reason, hrefused⟩ := (hports portPlace "8080" "65536" c₀ hc₀ trivial).refused hnone
    exact ⟨c₀, c, reason, hc₀, hc, hport.trans (UInt16.toNat_inj.mp hzeroValue),
      Option.some.inj (hothers .dbHost (by decide)), hrefused⟩
  · obtain ⟨c₀, hc₀⟩ : ∃ c₀, timePlace.load "10" = .ok c₀ :=
      exists_load_of_isOk (by decide +kernel)
    have hgreatest : Denotes ['+'] "+0018446744073709551615".toList 18446744073709551615 := by
      have hnumeral : IsNumeral "0018446744073709551615".toList := ⟨by simp, by simp⟩
      exact .plus (by decide) hnumeral
    have hholds : timePlace.Holds "+0018446744073709551615" := by simp [Place.Holds, timePlace]
    obtain ⟨c, v, hc, hv, hvalue, -⟩ :=
      (hseconds timePlace "10" "+0018446744073709551615" c₀ hc₀ hholds).exists_load
        (n := 18446744073709551615) (by decide) hgreatest
    have htime : c.server.shutdownTimeoutSecs = v := Option.some.inj hv
    exact ⟨c₀, c, hc₀, hc, htime.trans (UInt64.toNat_inj.mp hvalue)⟩

end Messaging.Settings
