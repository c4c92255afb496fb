import AccessWeave.Class.Codec
import AccessWeave.Proofs.Class.ClassExact

/-!
# The binary form of a class

A byte string is the binary form of a class exactly when it begins with the header and the
class as it would be encoded. What comes behind is ignored, so many byte strings are forms of
one class, but only one of them ends where the class does.
-/

namespace AccessWeave.Codec

open Payload

/-- Only a class without fault is written, and then as its stored form. -/
theorem encode_ok_iff {codec : Codec} {file : ClassFile} {bytes : List UInt8} :
    codec.encode file = .ok bytes ↔ file.fault? = none ∧ bytes = codec.bytesOf file := by
  cases fault : file.fault? with
  | none => simp [encode, fault, eq_comm]
  | some found => simp [encode, fault]

/-- The version in a header is the known one only in these two bytes. -/
theorem version_bytes {high low : UInt8} (known : high.toNat * 256 + low.toNat = formatVersion) :
    high = 0 ∧ low = 1 := by
  have lowSmall : low.toNat < 256 := low.toNat_lt
  rw [formatVersion] at known
  constructor
  · apply UInt8.toNat_inj.mp
    change high.toNat = 0
    omega
  · apply UInt8.toNat_inj.mp
    change low.toNat = 1
    omega

theorem decode_binary_iff {bytes : List UInt8} {file : ClassFile} :
    decodeBinary bytes = .ok file ↔
      ClassFits file ∧ ∃ suffix, bytes = bytesOf .binary file ++ suffix := by
  constructor
  · intro read
    unfold decodeBinary at read
    split at read
    · next a b c d high low payload =>
        dsimp only at read
        split_ifs at read with foreign known
        split at read
        · cases read
        · next decoded =>
            cases read
            rcases (class_exact _ _ _).mp decoded with ⟨fitting, rfl⟩
            rcases version_bytes (not_not.mp known) with ⟨rfl, rfl⟩
            have spelled := not_not.mp foreign
            simp only [magic, List.cons.injEq] at spelled
            rcases spelled with ⟨rfl, rfl, rfl, rfl, _⟩
            exact ⟨fitting, _, rfl⟩
    · cases read
  · rintro ⟨fitting, suffix, rfl⟩
    have read := (class_exact _ file suffix).mpr ⟨fitting, rfl⟩
    simp [bytesOf, header, magic, formatVersion, decodeBinary, read]

/-- A class that fits is read back from its binary form. -/
theorem decode_bytes_of {file : ClassFile} (fitting : ClassFits file) :
    decodeBinary (bytesOf .binary file) = .ok file :=
  decode_binary_iff.mpr ⟨fitting, [], (List.append_nil _).symm⟩

end AccessWeave.Codec
