import PixelPilot.Config.Settings
import PixelPilot.Pipeline.UdpReceiver

/-!
# Numbers on their way to their use

The port and the payload type pass from a text to `long`, to `int`, and at last to
`uint16_t` for `bind` or to `guint8` for the comparison with a packet.

Main results:

- Definition `denotedInteger`: the integer a text denotes, of any size.
- Theorem `readInt_eq`: what is stored for it.
- Definitions `PortKept` and `PayloadTypeKept`: the number stays the same.
- Theorem `numbers_kept_iff`: the accepted texts for which it does.
- Theorem `numbers_wrapped`: a port and a payload type that are accepted and wrap.
-/

namespace PixelPilot
namespace Config

/-- The integer a text denotes: blanks, a sign and decimal digits. -/
def denotedInteger (text : Text) : Option Int :=
  let sign := readSign (text.dropWhile Main.isspace)
  if sign.2 ≠ [] ∧ sign.2.all Char.isDigit = true then
    let n : Int := Nat.ofDigitChars 10 sign.2 0
    some (if sign.1 then -n else n)
  else none

/-- The port that `udp_receiver_start` passes to `bind`, before `htons`. -/
def bindPort (udpPort : Int) : UInt16 :=
  UInt16.ofInt udpPort

/-- The payload type that `payload_type_matches` compares with. -/
def comparedPayloadType (vidPt : Int) : UInt8 :=
  UInt8.ofInt vidPt

/-- What a packet is compared with. -/
theorem payloadTypeMatches_eq {vidPt : Int} (h : 0 ≤ vidPt) (first second : UInt8)
    (rest : List UInt8) :
    Pipeline.payloadTypeMatches (first :: second :: rest) vidPt =
      ((second &&& 0x7F) == comparedPayloadType vidPt) := by
  unfold Pipeline.payloadTypeMatches
  rw [if_neg (by omega)]
  rfl

/-- The number `n` is stored, and `bind` gets it. -/
def PortKept (n stored : Int) : Prop :=
  stored = n ∧ ((bindPort stored).toNat : Int) = n

/-- The number `n` is stored, and packets are compared with it unless it is negative. -/
def PayloadTypeKept (n stored : Int) : Prop :=
  stored = n ∧ (0 ≤ n → ((comparedPayloadType stored).toNat : Int) = n)

/-! ## What is stored -/

/-- A text is accepted if it denotes an integer; the integer is stored as `long` and `int`
can hold it. -/
theorem readInt_eq (text : Text) :
    readInt text = (denotedInteger text).map fun n => toInt (clampLong n) := by
  unfold readInt strtol denotedInteger
  generalize readSign (text.dropWhile Main.isspace) = sign
  obtain ⟨negative, digits⟩ := sign
  simp only
  by_cases hdigits : digits.all Char.isDigit = true
  · have hall : ∀ c ∈ digits, c.isDigit = true := List.all_eq_true.mp hdigits
    have htake : digits.takeWhile Char.isDigit = digits := List.takeWhile_eq_self_iff.mpr hall
    have hdrop : digits.dropWhile Char.isDigit = [] := List.dropWhile_eq_nil_iff.mpr hall
    rw [htake, hdrop]
    by_cases hempty : digits = []
    · subst hempty
      rfl
    · rw [if_neg hempty, if_pos (And.intro hempty hdigits)]
      rfl
  · have hnone : ¬ (digits ≠ [] ∧ digits.all Char.isDigit = true) := fun h => hdigits h.2
    have hrest : digits.dropWhile Char.isDigit ≠ [] := by
      rw [ne_eq, List.dropWhile_eq_nil_iff, ← List.all_eq_true]
      exact hdigits
    rw [if_neg hnone]
    by_cases hempty : digits.takeWhile Char.isDigit = []
    · rw [if_pos hempty]
      rfl
    · rw [if_neg hempty]
      simp only
      rw [if_pos hrest]
      rfl

/-- The number is stored as it is if `int` can hold it. -/
theorem stored_eq_iff (n : Int) :
    toInt (clampLong n) = n ↔ -0x80000000 ≤ n ∧ n ≤ 0x7fffffff := by
  unfold toInt
  constructor
  · intro h
    have hlow := Int.le_bmod (x := clampLong n) (m := 0x100000000) (by decide)
    have hhigh := Int.bmod_lt (x := clampLong n) (m := 0x100000000) (by decide)
    rw [h] at hlow hhigh
    omega
  · rintro ⟨hlow, hhigh⟩
    have hclamp : clampLong n = n := by
      unfold clampLong
      omega
    rw [hclamp]
    exact Int.bmod_eq_of_le (by omega) (by omega)

/-- The port that is bound. -/
theorem toNat_bindPort (n : Int) : ((bindPort n).toNat : Int) = n % 65536 := by
  unfold bindPort UInt16.ofInt
  rw [UInt16.toNat_ofNat']
  omega

/-- The payload type that is compared. -/
theorem toNat_comparedPayloadType (n : Int) : ((comparedPayloadType n).toNat : Int) = n % 256 := by
  unfold comparedPayloadType UInt8.ofInt
  rw [UInt8.toNat_ofNat']
  omega

/-- The numbers whose port is kept. -/
theorem portKept_iff (n : Int) : PortKept n (toInt (clampLong n)) ↔ 0 ≤ n ∧ n ≤ 65535 := by
  unfold PortKept
  rw [toNat_bindPort]
  constructor
  · rintro ⟨hstored, hport⟩
    rw [hstored] at hport
    omega
  · rintro ⟨hlow, hhigh⟩
    have hstored := (stored_eq_iff n).mpr (by omega)
    rw [hstored]
    omega

/-- The numbers whose payload type is kept. -/
theorem payloadTypeKept_iff (n : Int) :
    PayloadTypeKept n (toInt (clampLong n)) ↔ -0x80000000 ≤ n ∧ n ≤ 255 := by
  unfold PayloadTypeKept
  rw [toNat_comparedPayloadType]
  constructor
  · rintro ⟨hstored, htype⟩
    have hrange := (stored_eq_iff n).mp hstored
    rw [hstored] at htype
    omega
  · rintro ⟨hlow, hhigh⟩
    have hstored := (stored_eq_iff n).mpr (by omega)
    rw [hstored]
    omega

/-! ## Accepted texts -/

/-- Both parsers accept the texts that denote integers.  The port stays the same on its
way to `bind` if it has 16 bits, the payload type on its way to the comparison if it is
negative or has 8. -/
theorem numbers_kept_iff (parse : Text → Int → Int × Int)
    (hparse : parse = parseIntArg ∨ parse = parseInt) (text : Text) (old : Int) :
    ((parse text old).1 = 0 ↔ (denotedInteger text).isSome) ∧
      ∀ n, denotedInteger text = some n →
        (PortKept n (parse text old).2 ↔ 0 ≤ n ∧ n ≤ 65535) ∧
          (PayloadTypeKept n (parse text old).2 ↔ -0x80000000 ≤ n ∧ n ≤ 255) := by
  have hsame : parse text old = accepted old (readInt text) := by
    rcases hparse with rfl | rfl
    · exact parseDecimal_eq text old
    · exact parseDecimal_eq text old
  rw [hsame, readInt_eq]
  constructor
  · cases denotedInteger text with
    | none => simp [accepted]
    | some n => simp [accepted]
  · intro n hn
    rw [hn]
    exact ⟨portKept_iff n, payloadTypeKept_iff n⟩

/-- The default port of an option and the default payload type of a file are kept. -/
theorem numbers_kept_iff_default :
    PortKept 5600 (parseIntArg "5600".toList 0).2 ∧
      PayloadTypeKept 97 (parseInt "97".toList 0).2 :=
  ⟨((numbers_kept_iff parseIntArg (Or.inl rfl) "5600".toList 0).2 5600 (by decide)).1.mpr
      (by decide),
    ((numbers_kept_iff parseInt (Or.inr rfl) "97".toList 0).2 97 (by decide)).2.mpr (by decide)⟩

/-- Accepted, and then another port is bound, or another payload type compared with. -/
theorem numbers_wrapped :
    denotedInteger "70000".toList = some 70000 ∧ parseIntArg "70000".toList 5600 = (0, 70000) ∧
      bindPort 70000 = 4464 ∧ ¬ PortKept 70000 (parseIntArg "70000".toList 5600).2 ∧
      denotedInteger "353".toList = some 353 ∧ parseInt "353".toList 97 = (0, 353) ∧
      comparedPayloadType 353 = 97 ∧ ¬ PayloadTypeKept 353 (parseInt "353".toList 97).2 := by
  have hport : parseIntArg "70000".toList 5600 = (0, 70000) := by decide
  have htype : parseInt "353".toList 97 = (0, 353) := by decide
  rw [hport, htype]
  refine ⟨by decide, rfl, by decide, ?_, by decide, rfl, by decide, ?_⟩
  · rintro ⟨-, h⟩
    exact absurd h (by decide)
  · rintro ⟨-, h⟩
    exact absurd (h (by decide)) (by decide)

end Config
end PixelPilot
