import AccessWeave.Class.Payload
import Mathlib.Algebra.Group.Nat.Defs
import Mathlib.Data.List.Basic

/-!
# Binary payloads are exact

A decoder is exact when it takes off the front of its input the encoding of a value, and
nothing else, for every value that fits. A value fits when each of its texts and sequences is
short enough for its length to be written in eight bytes. So what is encoded is read back
whatever comes behind it, and what is read was spelled as it would be encoded.
-/

namespace AccessWeave.Payload

variable {Value : Type} {fits : Value → Prop} {encode : Value → List UInt8}
  {decode : List UInt8 → Option (Value × List UInt8)}

def Exact (fits : Value → Prop) (encode : Value → List UInt8)
    (decode : List UInt8 → Option (Value × List UInt8)) : Prop :=
  ∀ input value suffix,
    decode input = some (value, suffix) ↔ fits value ∧ input = encode value ++ suffix

/-- Where a decoder goes on after an exact one, the input begins with an encoding. -/
theorem Exact.bind_iff {Result : Type} (exact : Exact fits encode decode) {input : List UInt8}
    {next : Value × List UInt8 → Option Result} {result : Result} :
    (decode input >>= next) = some result ↔
      ∃ value rest, (fits value ∧ input = encode value ++ rest) ∧
        next (value, rest) = some result := by
  constructor
  · intro read
    rcases Option.bind_eq_some_iff.mp read with ⟨⟨value, rest⟩, found, later⟩
    exact ⟨value, rest, (exact input value rest).mp found, later⟩
  · rintro ⟨value, rest, front, later⟩
    exact Option.bind_eq_some_iff.mpr ⟨(value, rest), (exact input value rest).mpr front, later⟩

/-- In front of anything, the encoding of a value that fits is read back. -/
theorem Exact.read_front {Result : Type} (exact : Exact fits encode decode) {value : Value}
    (fitting : fits value) (rest : List UInt8) (next : Value × List UInt8 → Option Result) :
    (decode (encode value ++ rest) >>= next) = next (value, rest) := by
  rw [(exact _ value rest).mpr ⟨fitting, rfl⟩]
  rfl

/-- Values kept as values of another kind, which all fit. -/
theorem Exact.converted {Other : Type} (exact : Exact fits encode decode)
    (read : Value → Other) (write : Other → Value) (fitting : ∀ other, fits (write other))
    (readBack : ∀ other, read (write other) = other)
    (writeBack : ∀ value, fits value → write (read value) = value) :
    Exact (fun _ => True) (fun other => encode (write other))
      (fun input => do
        let (value, suffix) ← decode input
        some (read value, suffix)) := by
  intro input other suffix
  simp only [exact.bind_iff, Option.some.injEq, Prod.mk.injEq]
  constructor
  · rintro ⟨value, _, ⟨fits, rfl⟩, rfl, rfl⟩
    rw [writeBack value fits]
    exact ⟨trivial, rfl⟩
  · rintro ⟨_, rfl⟩
    exact ⟨write other, suffix, ⟨fitting other, rfl⟩, readBack other, rfl⟩

theorem encode_number_length (count value : Nat) : (encodeNumber count value).length = count := by
  induction count generalizing value with
  | zero => rfl
  | succ count induction => rw [encodeNumber, List.length_cons, induction]

theorem number_exact (count : Nat) :
    Exact (· < 256 ^ count) (encodeNumber count) (decodeNumber count) := by
  induction count with
  | zero =>
      intro input value suffix
      simp only [decodeNumber, encodeNumber, Nat.pow_zero, Nat.lt_one_iff, List.nil_append,
        Option.some.injEq, Prod.mk.injEq]
      exact and_congr_left' eq_comm
  | succ count induction =>
      intro input value suffix
      cases input with
      | nil => simp [decodeNumber, encodeNumber]
      | cons byte rest =>
          simp only [decodeNumber, encodeNumber, induction.bind_iff, List.cons_append,
            List.cons.injEq, Option.some.injEq, Prod.mk.injEq]
          have small : byte.toNat < 256 := byte.toNat_lt
          constructor
          · rintro ⟨high, _, ⟨bound, rfl⟩, rfl, rfl⟩
            have low : (byte.toNat + 256 * high) % 256 = byte.toNat := by omega
            have rest : (byte.toNat + 256 * high) / 256 = high := by omega
            refine ⟨?_, ?_, by rw [rest]⟩
            · rw [Nat.pow_succ]
              omega
            · rw [low, UInt8.ofNat_toNat]
          · rintro ⟨bound, rfl, rfl⟩
            rw [Nat.pow_succ] at bound
            refine ⟨value / 256, suffix, ⟨by omega, rfl⟩, ?_, rfl⟩
            have low : (UInt8.ofNat (value % 256)).toNat = value % 256 :=
              UInt8.toNat_ofNat_of_lt' (Nat.mod_lt _ (by decide))
            omega

theorem take_exact (count : Nat) :
    Exact (fun bytes => bytes.length = count) id (takeExactly count) := by
  induction count with
  | zero =>
      intro input bytes suffix
      simp only [takeExactly, Option.some.injEq, Prod.mk.injEq, List.length_eq_zero_iff, id]
      constructor
      · rintro ⟨rfl, rfl⟩
        exact ⟨rfl, rfl⟩
      · rintro ⟨rfl, rfl⟩
        exact ⟨rfl, rfl⟩
  | succ count induction =>
      intro input bytes suffix
      cases input with
      | nil => cases bytes <;> simp [takeExactly]
      | cons byte rest =>
          simp only [takeExactly, induction.bind_iff, Option.some.injEq, Prod.mk.injEq, id]
          constructor
          · rintro ⟨taken, _, ⟨length, rfl⟩, rfl, rfl⟩
            exact ⟨congrArg (· + 1) length, rfl⟩
          · rintro ⟨length, split⟩
            cases bytes with
            | nil => cases length
            | cons head taken =>
                obtain ⟨rfl, rfl⟩ := List.cons.inj split
                exact ⟨taken, suffix, ⟨Nat.succ.inj length, rfl⟩, rfl, rfl⟩

theorem many_exact (exact : Exact fits encode decode) (count : Nat) :
    Exact (fun values => values.length = count ∧ ∀ value ∈ values, fits value)
      (List.flatMap encode) (decodeMany decode count) := by
  induction count with
  | zero =>
      intro input values suffix
      simp only [decodeMany, Option.some.injEq, Prod.mk.injEq, List.length_eq_zero_iff]
      constructor
      · rintro ⟨rfl, rfl⟩
        exact ⟨⟨rfl, by simp⟩, rfl⟩
      · rintro ⟨⟨rfl, _⟩, rfl⟩
        exact ⟨rfl, rfl⟩
  | succ count induction =>
      intro input values suffix
      simp only [decodeMany, exact.bind_iff, induction.bind_iff, Option.some.injEq, Prod.mk.injEq]
      constructor
      · rintro ⟨value, _, ⟨fitting, rfl⟩, later, _, ⟨⟨length, fittingLater⟩, rfl⟩, rfl, rfl⟩
        refine ⟨⟨congrArg (· + 1) length, ?_⟩, by simp⟩
        exact List.forall_mem_cons.mpr ⟨fitting, fittingLater⟩
      · rintro ⟨⟨length, fitting⟩, rfl⟩
        cases values with
        | nil => cases length
        | cons value later =>
            rw [List.forall_mem_cons] at fitting
            exact ⟨value, later.flatMap encode ++ suffix, ⟨fitting.1, by simp⟩, later, suffix,
              ⟨⟨Nat.succ.inj length, fitting.2⟩, rfl⟩, rfl, rfl⟩

/-- Whether a sequence is short enough for its length to be written, and so are its parts. -/
def ListFits (fits : Value → Prop) (values : List Value) : Prop :=
  values.length < UInt64.size ∧ ∀ value ∈ values, fits value

def OptionFits (fits : Value → Prop) (value : Option Value) : Prop := ∀ item ∈ value, fits item

def TextFits (text : String) : Prop := (Text.toBytes text).length < UInt64.size

theorem list_exact (exact : Exact fits encode decode) :
    Exact (ListFits fits) (encodeList encode) (decodeList decode) := by
  intro input values suffix
  simp only [decodeList, (number_exact 8).bind_iff, many_exact exact _ _ _ _, encodeList,
    ListFits, List.append_assoc]
  constructor
  · rintro ⟨_, _, ⟨bound, rfl⟩, ⟨rfl, fitting⟩, rfl⟩
    exact ⟨⟨bound, fitting⟩, rfl⟩
  · rintro ⟨⟨bound, fitting⟩, rfl⟩
    exact ⟨values.length, _, ⟨bound, rfl⟩, ⟨rfl, fitting⟩, rfl⟩

theorem option_exact (exact : Exact fits encode decode) :
    Exact (OptionFits fits) (encodeOption encode) (decodeOption decode) := by
  intro input value suffix
  constructor
  · intro read
    unfold decodeOption at read
    split at read
    · cases read
    · next tag rest =>
        split_ifs at read with absent present
        · cases read
          exact ⟨by simp [OptionFits], by rw [absent]; rfl⟩
        · rcases exact.bind_iff.mp read with ⟨item, _, ⟨fitting, rfl⟩, same⟩
          cases same
          exact ⟨by simpa [OptionFits] using fitting, by rw [present]; rfl⟩
  · rintro ⟨fitting, rfl⟩
    cases value with
    | none => rfl
    | some item =>
        have read := (exact _ item suffix).mpr ⟨fitting item rfl, rfl⟩
        simp [decodeOption, encodeOption, read]

theorem text_exact : Exact TextFits encodeText decodeText := by
  intro input text suffix
  simp only [decodeText, (number_exact 8).bind_iff, (take_exact _).bind_iff, encodeText, TextFits,
    List.append_assoc, id]
  simp only [Option.bind_eq_bind, Option.bind_eq_some_iff, Option.some.injEq, Prod.mk.injEq]
  constructor
  · rintro ⟨_, _, ⟨bound, rfl⟩, bytes, _, ⟨rfl, rfl⟩, _, spelled, rfl, rfl⟩
    rw [Text.to_bytes_of_bytes spelled]
    exact ⟨bound, rfl⟩
  · rintro ⟨bound, rfl⟩
    exact ⟨_, _, ⟨bound, rfl⟩, Text.toBytes text, suffix, ⟨rfl, rfl⟩, text,
      Text.of_bytes_to_bytes text, rfl, rfl⟩

end AccessWeave.Payload
