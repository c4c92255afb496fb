import AccessWeave.Proofs.Class.BinaryForm

/-!
# One binary form for each class

A class that verifies is written, and read back from what was written whatever comes behind
it. Every byte string that is read as such a class begins with just these bytes. So two classes
are never written alike, and a form that was cut short is refused. Floating point literals are
bit patterns, so no two of them are confused, not even two that are no numbers.
-/

namespace AccessWeave.Codec

open Payload

theorem decode_of_binary (bytes : List UInt8) : Codec.binary.decode bytes = decodeBinary bytes :=
  rfl

theorem decode_behind_header (payload : List UInt8) :
    decodeBinary (header ++ payload) =
      (decodeClass payload).elim (.error .malformed) fun found => .ok found.1 := by
  cases decoded : decodeClass payload <;>
    simp [header, magic, formatVersion, decodeBinary, decoded]

theorem decode_shorter_than_header {bytes : List UInt8} (short : bytes.length < header.length) :
    decodeBinary bytes = .error (.truncated bytes.length) := by
  match bytes, short with
  | [], _ | [_], _ | [_, _], _ | [_, _, _], _ | [_, _, _, _], _ | [_, _, _, _, _], _ => rfl

/-- The binary form of a class is all of a byte string that is read as the class. -/
theorem form_within {file : ClassFile} {bytes : List UInt8}
    (read : decodeBinary bytes = .ok file) : bytesOf .binary file <+: bytes := by
  rcases decode_binary_iff.mp read with ⟨_, suffix, rfl⟩
  exact List.prefix_append _ _

/-- No part of a form that is cut off behind is read as any class. -/
theorem front_of_form_unread {file other : ClassFile} {front : List UInt8}
    (fitting : ClassFits file) (within : front <+: bytesOf .binary file)
    (cut : front ≠ bytesOf .binary file) : decodeBinary front ≠ .ok other := by
  intro read
  rcases within with ⟨missing, whole⟩
  rcases decode_binary_iff.mp read with ⟨otherFits, suffix, rfl⟩
  -- The rest of the form is not read, so the whole form would be read as the other class.
  have readOther : decodeBinary (bytesOf .binary file) = .ok other := by
    rw [← whole, List.append_assoc]
    exact decode_binary_iff.mpr ⟨otherFits, _, rfl⟩
  have readFile := decode_bytes_of fitting
  rw [readFile] at readOther
  cases readOther
  have lengths := congrArg List.length whole
  simp only [List.length_append] at lengths
  have nothing : suffix = [] := List.length_eq_zero_iff.mp (by omega)
  exact cut (by rw [nothing, List.append_nil])

theorem decode_cut_form {file : ClassFile} {front : List UInt8} (fitting : ClassFits file)
    (within : front <+: bytesOf .binary file) (cut : front ≠ bytesOf .binary file) :
    decodeBinary front =
      .error (if front.length < header.length then .truncated front.length else .malformed) := by
  by_cases short : front.length < header.length
  · rw [if_pos short, decode_shorter_than_header short]
  · rw [if_neg short]
    have headed : header <+: front :=
      List.prefix_of_prefix_length_le (List.prefix_append _ _) within (Nat.le_of_not_lt short)
    rcases headed with ⟨payload, rfl⟩
    have behind := decode_behind_header payload
    cases decoded : decodeClass payload with
    | none => rw [behind, decoded, Option.elim_none]
    | some found =>
        rw [decoded, Option.elim_some] at behind
        exact absurd behind (front_of_form_unread fitting within cut)

/-- A class that verifies is written as one byte string, and whatever is read as the class begins
with it. A class whose lengths can be written, as those of every class in memory can, is read
back from it whatever comes behind it, no other class is written so, and a front part of it is
refused. -/
theorem binary_form_is_canonical (file : ClassFile) (sound : file.fault? = none) :
    ∃ form, Codec.binary.encode file = .ok form ∧
      (∀ bytes, Codec.binary.decode bytes = .ok file → form <+: bytes) ∧
      (ClassFits file →
        (∀ suffix, Codec.binary.decode (form ++ suffix) = .ok file) ∧
        (∀ other, ClassFits other → Codec.binary.encode other = .ok form → other = file) ∧
        ∀ front, front <+: form → front ≠ form →
          Codec.binary.decode front =
            .error (if front.length < header.length then .truncated front.length
              else .malformed)) := by
  simp only [decode_of_binary]
  refine ⟨bytesOf .binary file, encode_ok_iff.mpr ⟨sound, rfl⟩, fun _ => form_within, ?_⟩
  intro fitting
  refine ⟨?_, ?_, fun _ => decode_cut_form fitting⟩
  · intro suffix
    exact decode_binary_iff.mpr ⟨fitting, suffix, rfl⟩
  · intro other otherFits written
    have sameForm := (encode_ok_iff.mp written).2
    have readOther := decode_bytes_of otherFits
    rw [← sameForm, decode_bytes_of fitting] at readOther
    cases readOther
    rfl

/-- Two literals that are no numbers and differ only in their bits. -/
def twoPatterns : ClassFile where
  name := "é"
  superName := none
  methods :=
    [{ name := "m", descriptor := "()V", accessFlags := 0x0409
       body := some
        { maxStack := 2, maxLocals := 0
          instructions :=
            [.label ⟨7⟩, .loadConst (.float 0x7fc00001), .loadConst (.float 0xff800001),
              .switch 0xaa ⟨7⟩ [⟨7⟩]]
          handlers := []
          frames := [] } }]
  attributes := [⟨"S", [0, 255]⟩]

def twoPatternsForm : List UInt8 :=
  [0x43, 0x47, 0x43, 0x41, 0x00, 0x01, 0x02, 0x00, 0x00, 0x00, 0x00, 0x00, 0x00, 0x00,
    0xc3, 0xa9, 0x00, 0x01, 0x00, 0x00, 0x00, 0x00, 0x00, 0x00, 0x00, 0x01, 0x00, 0x00,
    0x00, 0x00, 0x00, 0x00, 0x00, 0x6d, 0x03, 0x00, 0x00, 0x00, 0x00, 0x00, 0x00, 0x00,
    0x28, 0x29, 0x56, 0x09, 0x04, 0x01, 0x02, 0x00, 0x00, 0x00, 0x04, 0x00, 0x00, 0x00,
    0x00, 0x00, 0x00, 0x00, 0x02, 0x00, 0x00, 0x00, 0x07, 0x00, 0x00, 0x00, 0x01, 0x00,
    0x00, 0x00, 0x02, 0x00, 0x00, 0x00, 0x01, 0x00, 0xc0, 0x7f, 0x01, 0x00, 0x00, 0x00,
    0x02, 0x00, 0x00, 0x00, 0x01, 0x00, 0x80, 0xff, 0x04, 0x00, 0x00, 0x00, 0xaa, 0x07,
    0x00, 0x00, 0x00, 0x01, 0x00, 0x00, 0x00, 0x00, 0x00, 0x00, 0x00, 0x07, 0x00, 0x00,
    0x00, 0x00, 0x00, 0x00, 0x00, 0x00, 0x00, 0x00, 0x00, 0x00, 0x00, 0x00, 0x00, 0x00,
    0x00, 0x00, 0x00, 0x01, 0x00, 0x00, 0x00, 0x00, 0x00, 0x00, 0x00, 0x01, 0x00, 0x00,
    0x00, 0x00, 0x00, 0x00, 0x00, 0x53, 0x02, 0x00, 0x00, 0x00, 0x00, 0x00, 0x00, 0x00,
    0x00, 0xff]

theorem two_patterns_have_one_form :
    twoPatterns.fault? = none ∧ ClassFits twoPatterns ∧
      Codec.binary.encode twoPatterns = .ok twoPatternsForm ∧
      (∀ suffix, Codec.binary.decode (twoPatternsForm ++ suffix) = .ok twoPatterns) ∧
      Codec.binary.decode (twoPatternsForm.take 5) = .error (.truncated 5) ∧
      Codec.binary.decode (twoPatternsForm.take 155) = .error .malformed := by
  have sound : twoPatterns.fault? = none := by decide +kernel
  have written : Codec.binary.encode twoPatterns = .ok twoPatternsForm := by decide +kernel
  have read : decodeBinary twoPatternsForm = .ok twoPatterns := by decide +kernel
  have fitting : ClassFits twoPatterns := (decode_binary_iff.mp read).1
  rcases binary_form_is_canonical twoPatterns sound with ⟨form, encoded, _, fits⟩
  rw [written] at encoded
  cases encoded
  rcases fits fitting with ⟨readBack, _, refused⟩
  refine ⟨sound, fitting, written, readBack, ?_, ?_⟩
  · exact refused _ (List.take_prefix 5 _) (by decide +kernel)
  · rw [refused _ (List.take_prefix 155 _) (by decide +kernel), if_neg (by decide +kernel)]

end AccessWeave.Codec
