import NitroEnclavesAcm.Testtool.Umgebung
import Mathlib.Data.Nat.Size

/-
  File:      NitroEnclavesAcm/Testtool/Nutzlast.lean
  Subject:   The payload of the raw (X.509) RSA cases, as a number: `create_test_random_file_rsax509`
             puts 0x41 before the helper's `size - 1` bytes, so the big-endian value of the file is
             below half of every modulus of `8 * size` bits.

  * `wert` -- the big-endian value of a byte string; `wert_lt` bounds it by the length;
  * `wert_0x41_lt` -- with the leading 0x41 the value is below `2 ^ (8k - 1)`;
  * `createTestRandomFileRsax509_schreibt` -- what the generator writes, from every state in
    which the helper hands it bytes; `createTestRandomFileRsax509_unter_modul` puts the three
    together.
-/

namespace NitroEnclavesAcm.Testtool

open NitroEnclavesAcm.Bash

/-- The big-endian value of a byte string. -/
def wert : Bytes → Nat
  | [] => 0
  | b :: bs => b.toNat * 256 ^ bs.length + wert bs

theorem wert_lt (bs : Bytes) : wert bs < 256 ^ bs.length := by
  induction bs with
  | nil => simp [wert]
  | cons b bs ih =>
    have hb : b.toNat < 256 := UInt8.toNat_lt_size b
    calc wert (b :: bs) = b.toNat * 256 ^ bs.length + wert bs := rfl
      _ < b.toNat * 256 ^ bs.length + 256 ^ bs.length := by omega
      _ = (b.toNat + 1) * 256 ^ bs.length := (Nat.succ_mul _ _).symm
      _ ≤ 256 * 256 ^ bs.length := Nat.mul_le_mul_right _ hb
      _ = 256 ^ (b :: bs).length := by rw [List.length_cons, pow_succ, Nat.mul_comm]

/-- **A leading 0x41 keeps the value below half of `2 ^ (8k)`** and above zero, for `k` bytes in
    all, whatever the other `k - 1` are. -/
theorem wert_0x41_lt (sfx : Bytes) :
    0 < wert (0x41 :: sfx) ∧ wert (0x41 :: sfx) < 2 ^ (8 * (0x41 :: sfx).length - 1) := by
  have h256 : (256 : Nat) ^ sfx.length = 2 ^ (8 * sfx.length) := by rw [pow_mul]; rfl
  have hlt := wert_lt sfx
  have hpos : 0 < 2 ^ (8 * sfx.length) := Nat.pos_pow_of_pos _ (by decide)
  have hexp : 8 * (sfx.length + 1) - 1 = 8 * sfx.length + 7 := by omega
  simp only [wert, List.length_cons, hexp, pow_add, h256]
  show 0 < 65 * 2 ^ (8 * sfx.length) + wert sfx ∧
    65 * 2 ^ (8 * sfx.length) + wert sfx < 2 ^ (8 * sfx.length) * 128
  omega

/-- A number of exactly `m` bits is at least `2 ^ (m - 1)`. -/
theorem pow_le_of_size_eq {n m : Nat} (hm : 1 ≤ m) (h : Nat.size n = m) : 2 ^ (m - 1) ≤ n :=
  Nat.lt_size.mp (by omega)

/-- What `create_test_random_file_rsax509 outputfile k` does when the helper hands it `sfx`: it
    succeeds and the file holds 0x41 and then `sfx`. -/
theorem createTestRandomFileRsax509_schreibt (e : Env) (outputfile : String) (k : Nat) (s : Shell)
    (sfx : Bytes) (hs : e.prngFile ((k : Int) - 1) s.vars.prngSeed = some sfx) :
    ((createTestRandomFileRsax509 e).run outputfile k s).1 = 0 ∧
    ((createTestRandomFileRsax509 e).run outputfile k s).2.fs outputfile = some (0x41 :: sfx) := by
  simp [createTestRandomFileRsax509, Cmd.and_apply, prngFileCmd, hs, catTeile]

/-- **The raw payload is a full-length number below every modulus of its length**: for `k ≥ 1`,
    whatever `k - 1` bytes the helper hands out, the file has `k` bytes and its value `v` has
    `0 < v < 2 ^ (8k - 1)`, and every number of exactly `8k` bits is at least `2 ^ (8k - 1)`. -/
theorem createTestRandomFileRsax509_unter_modul (e : Env) (outputfile : String) (k : Nat)
    (s : Shell) (sfx : Bytes) (hk : 1 ≤ k)
    (hs : e.prngFile ((k : Int) - 1) s.vars.prngSeed = some sfx) :
    ((createTestRandomFileRsax509 e).run outputfile k s).1 = 0 ∧
    ((createTestRandomFileRsax509 e).run outputfile k s).2.fs outputfile = some (0x41 :: sfx) ∧
    (0x41 :: sfx).length = k ∧ 0 < wert (0x41 :: sfx) ∧ wert (0x41 :: sfx) < 2 ^ (8 * k - 1) ∧
    ∀ n, Nat.size n = 8 * k → 2 ^ (8 * k - 1) ≤ n := by
  have hlen : (0x41 :: sfx).length = k := by
    have := e.prngFile_length _ _ _ hs
    simp only [List.length_cons]
    omega
  obtain ⟨hpos, hlt⟩ := wert_0x41_lt sfx
  exact ⟨(createTestRandomFileRsax509_schreibt e outputfile k s sfx hs).1,
    (createTestRandomFileRsax509_schreibt e outputfile k s sfx hs).2, hlen, hpos, hlen ▸ hlt,
    fun n hn => pow_le_of_size_eq (by omega) hn⟩

end NitroEnclavesAcm.Testtool
