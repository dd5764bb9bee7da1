import HtcPme.Foundation.OnesComplement
import HtcPme.IpaNat.Driver

/-!
# Checksum differences

`ipa_nati_calc_ip_cksum` and `ipa_nati_calc_tcp_udp_cksum` are one's complement sums of the public
words and the complements of the private ones, which the hardware adds to a header.
-/

namespace HtcPme.IpaNat

open Halfword OnesComplement

theorem cksumAdd_eq {cksum term : ℕ} (cksumFits : cksum < 2 ^ 16) (termFits : term < 2 ^ 16) :
    cksumAdd cksum term = add 16 cksum term := by
  have mask : (cksum + term) &&& 0xFFFF = (cksum + term) % 2 ^ 16 :=
    Nat.and_two_pow_sub_one_eq_mod _ 16
  simp only [cksumAdd, add, Nat.shiftRight_eq_div_pow, mask]
  split_ifs with carry noCarry noCarry <;> omega

theorem cksumAdd_zero (term : BitVec 16) : cksumAdd 0 term.toNat = term.toNat := by
  rw [cksumAdd_eq (by decide) term.isLt]
  simp [add, term.isLt]

section

variable (addr : BitVec 32)

include addr

theorem toNat_and_ffff : (addr &&& 0xFFFF).toNat = (lo addr).toNat := by
  rw [BitVec.toNat_and, show (0xFFFF : BitVec 32).toNat = 2 ^ 16 - 1 from rfl,
    Nat.and_two_pow_sub_one_eq_mod, lo, BitVec.extractLsb'_toNat]
  rfl

theorem toNat_ushiftRight_16 : (addr >>> 16).toNat = (hi addr).toNat := by
  rw [BitVec.toNat_ushiftRight, hi, BitVec.extractLsb'_toNat]
  exact (Nat.mod_eq_of_lt (by omega)).symm

theorem lo_not : lo (~~~addr) = ~~~lo addr := by
  apply BitVec.eq_of_getLsbD_eq
  intro bit bound
  simp [lo, bound, show bit < 32 by omega]

theorem hi_not : hi (~~~addr) = ~~~hi addr := by
  apply BitVec.eq_of_getLsbD_eq
  intro bit bound
  simp [hi, bound, show 16 + bit < 32 by omega]

end

def wordsOf (addr : BitVec 32) (ports : List (BitVec 16)) : List (BitVec 16) :=
  lo addr :: hi addr :: ports

def cksumOf (terms : List (BitVec 16)) : ℕ :=
  terms.foldl (fun cksum term => cksumAdd cksum term.toNat) 0

theorem foldl_cksumAdd (terms : List (BitVec 16)) {cksum : ℕ} (fits : cksum < 2 ^ 16) :
    terms.foldl (fun cksum term => cksumAdd cksum term.toNat) cksum =
      terms.foldl (fun cksum term => add 16 cksum term.toNat) cksum := by
  induction terms generalizing cksum with
  | nil => rfl
  | cons term terms ih =>
      simp only [List.foldl_cons, cksumAdd_eq fits term.isLt]
      exact ih (add_lt fits term.isLt)

theorem cksumOf_eq_sum (terms : List (BitVec 16)) : cksumOf terms = sum terms :=
  foldl_cksumAdd terms (Nat.two_pow_pos 16)

def deltaTerms (pub priv : List (BitVec 16)) : List (BitVec 16) :=
  pub ++ priv.map (~~~·)

theorem ipaNatiCalcIpCksum_eq (pubIpAddr privIpAddr : BitVec 32) :
    ipaNatiCalcIpCksum pubIpAddr privIpAddr =
      BitVec.ofNat 16 (cksumOf (deltaTerms (wordsOf pubIpAddr []) (wordsOf privIpAddr []))) := by
  simp only [ipaNatiCalcIpCksum, cksumOf, deltaTerms, wordsOf, toNat_and_ffff,
    toNat_ushiftRight_16, lo_not, hi_not, List.map_cons, List.map_nil, List.cons_append,
    List.nil_append, List.foldl_cons, List.foldl_nil, cksumAdd_zero]

theorem ipaNatiCalcTcpUdpCksum_eq (pubIpAddr : BitVec 32) (pubPort : BitVec 16)
    (privIpAddr : BitVec 32) (privPort : BitVec 16) :
    ipaNatiCalcTcpUdpCksum pubIpAddr pubPort privIpAddr privPort =
      BitVec.ofNat 16
        (cksumOf (deltaTerms (wordsOf pubIpAddr [pubPort]) (wordsOf privIpAddr [privPort]))) := by
  simp only [ipaNatiCalcTcpUdpCksum, cksumOf, deltaTerms, wordsOf, toNat_and_ffff,
    toNat_ushiftRight_16, lo_not, hi_not, List.map_cons, List.map_nil, List.cons_append,
    List.nil_append, List.foldl_cons, List.foldl_nil, cksumAdd_zero]

/-- A word that stands for the difference between the public and the private words: added to the sum
of a header it makes up for the words that are replaced. -/
structure IsDelta (delta : BitVec 16) (pub priv : List (BitVec 16)) : Prop where
  cksum : delta = BitVec.ofNat 16 (cksumOf (deltaTerms pub priv))
  noCarryLost : ∀ terms, terms <+: deltaTerms pub priv →
    cksumOf terms < 2 ^ 16 ∧ (cksumOf terms : ℤ) ≡ OnesComplement.total terms [ZMOD 65535]
  modEq : (delta.toNat : ℤ) ≡
    OnesComplement.total pub - OnesComplement.total priv [ZMOD 65535]
  header : ∀ (words : List (BitVec 16)) (positions : List ℕ), positions.Nodup →
    positions.map (words[·]?) = priv.map some →
      (OnesComplement.add 16 (OnesComplement.sum words) delta.toNat : ℤ) ≡
        OnesComplement.sum (OnesComplement.substitute words (positions.zip pub)) [ZMOD 65535]

theorem isDelta_cksumOf {delta : BitVec 16} {pub priv : List (BitVec 16)}
    (cksum : delta = BitVec.ofNat 16 (cksumOf (deltaTerms pub priv)))
    (sameLength : pub.length = priv.length) : IsDelta delta pub priv := by
  have fits (terms : List (BitVec 16)) : cksumOf terms < 2 ^ 16 := by
    rw [cksumOf_eq_sum]
    exact sum_lt terms
  have residue (terms : List (BitVec 16)) :
      (cksumOf terms : ℤ) ≡ total terms [ZMOD 65535] := by
    rw [cksumOf_eq_sum]
    exact sum_modEq terms
  have modEq : (delta.toNat : ℤ) ≡
      total pub - total priv [ZMOD 65535] := by
    rw [cksum, BitVec.toNat_ofNat, Nat.mod_eq_of_lt (fits _)]
    apply (residue _).trans
    rw [deltaTerms, total_append, sub_eq_add_neg]
    exact (total_complement_modEq priv).add_left _
  refine ⟨cksum, fun terms _ => ⟨fits terms, residue terms⟩, modEq, ?_⟩
  intro words positions distinct found
  exact add_sum_modEq_substitute modEq distinct found sameLength

/-- Both differences that a rule stores, for all addresses and ports. -/
theorem isDelta_calcCksum (pubIpAddr privIpAddr : BitVec 32) (pubPort privPort : BitVec 16) :
    IsDelta (ipaNatiCalcIpCksum pubIpAddr privIpAddr) (wordsOf pubIpAddr [])
        (wordsOf privIpAddr []) ∧
      IsDelta (ipaNatiCalcTcpUdpCksum pubIpAddr pubPort privIpAddr privPort)
        (wordsOf pubIpAddr [pubPort]) (wordsOf privIpAddr [privPort]) :=
  ⟨isDelta_cksumOf (ipaNatiCalcIpCksum_eq pubIpAddr privIpAddr) rfl,
    isDelta_cksumOf (ipaNatiCalcTcpUdpCksum_eq pubIpAddr pubPort privIpAddr privPort) rfl⟩

/-- A header of three words whose last two are the private address. -/
example :
    add 16 (sum [(0x4500 : BitVec 16), 0xC0A8, 0x0002])
        (ipaNatiCalcIpCksum 0x0A000001 0xC0A80002).toNat =
      sum [(0x4500 : BitVec 16), 0x0A00, 0x0001] := by decide

end HtcPme.IpaNat
