import CaptureTheFlag.Grader.Definition
import CaptureTheFlag.Proofs.Text.Hex

/-!
# Graders with a digest accept the keys that have it

The grader writes the digest of the stripped key in hexadecimal, and compares it with what is
written in the definition.

* `Sha256.verify_eq_true_iff`: the comparison of what is written decides whether the octets are the
  same.
* `Grader.Definition.isDigest_iff`: the texts that are taken for digests.
* `correct_iff_has_digest`: a key is correct exactly if it has the digest that is written down.

## Blanks and case

What is written in the definition is stripped once more with every key, and the case of its letters
does not count.  There is nothing to strip: a text that is taken for a digest has no blanks.  And no
two digests are mixed up: the text in small letters is the one that is written for its octets.
-/

namespace CaptureTheFlag

/-- **A text has the digest that is written** exactly if what is written, without the blanks around
it, stands for the octets of the text's digest. -/
theorem Sha256.verify_eq_true_iff (s written : String) : verify s written = true ↔
    Text.Hex.decode? (Text.trim written).toList = some (digest (Text.utf8 s)) := by
  have hsmall : (Text.Hex.encode (digest (Text.utf8 s))).map Char.toLower =
      Text.Hex.encode (digest (Text.utf8 s)) :=
    Text.Hex.decode?_eq_some_iff.1 (Text.Hex.decode?_encode _)
  rw [Text.Hex.decode?_eq_some_iff]
  unfold verify Text.sameIgnoringAsciiCase hexDigest
  rw [String.toList_ofList, hsmall, beq_iff_eq]
  exact eq_comm

namespace Grader.Definition

variable {d : Definition} {written written' : String}

/-! ## What is taken for a digest -/

/-- A digest is written with 64 digits. -/
theorem isDigest_iff (written : String) : isDigest written = true ↔
    written.length = 64 ∧ ∀ c ∈ written.toList, Text.Hex.IsDigit c := by
  unfold isDigest
  rw [Bool.and_eq_true, decide_eq_true_iff, Option.isSome_iff_exists, Text.Hex.exists_decode?_iff,
    String.length_toList]
  constructor
  · rintro ⟨hsize, -, hdigits⟩
    rw [Text.Hex.utf8ByteSize_of_isDigit written hdigits] at hsize
    exact ⟨hsize, hdigits⟩
  · rintro ⟨hlength, hdigits⟩
    rw [Text.Hex.utf8ByteSize_of_isDigit written hdigits]
    exact ⟨hlength, hlength ▸ by decide, hdigits⟩

/-- A digest is what stands for 32 octets. -/
theorem isDigest_iff_exists_octets (written : String) : isDigest written = true ↔
    ∃ octets, Text.Hex.decode? written.toList = some octets ∧ octets.length = 32 := by
  rw [isDigest_iff, ← String.length_toList]
  constructor
  · rintro ⟨hlength, hdigits⟩
    obtain ⟨octets, hoctets⟩ := (Text.Hex.exists_decode?_iff _).2 ⟨hlength ▸ by decide, hdigits⟩
    have hpairs := Text.Hex.length_of_decode? hoctets
    exact ⟨octets, hoctets, by omega⟩
  · rintro ⟨octets, hoctets, hlength⟩
    have hpairs := Text.Hex.length_of_decode? hoctets
    exact ⟨by omega, Text.Hex.isDigit_of_decode? hoctets⟩

/-- Nothing of a digest is lost in stripping it once more. -/
theorem verify_eq_true_iff_of_isDigest (h : isDigest written = true) (s : String) :
    Sha256.verify s written = true ↔
      Text.Hex.decode? written.toList = some (Sha256.digest (Text.utf8 s)) := by
  rw [Sha256.verify_eq_true_iff, Text.Hex.trim_of_isDigit ((isDigest_iff written).1 h).2]

/-! ## The grader of a digest -/

/-- A definition with a digest gives a grader if what it has is taken for one. -/
theorem build_sha256 (hkind : d.kind = .sha256 written) :
    d.build = if isDigest written then .ok (Grader.digest d.messages written)
      else .error (.badDigest d.id) := by
  unfold build
  rw [hkind]

/-- The case in which a digest is written counts neither for the definition nor for the keys. -/
theorem build_sha256_congr (hkind : d.kind = .sha256 written)
    (h : Text.sameIgnoringAsciiCase written' written = true) :
    ({ d with kind := .sha256 written' } : Definition).build = d.build := by
  have htaken : isDigest written' = isDigest written := by
    rw [Bool.eq_iff_iff, isDigest_iff_exists_octets, isDigest_iff_exists_octets,
      Text.Hex.decode?_congr h]
  rw [build_sha256 hkind, build_sha256 rfl, htaken]
  split
  · next hdigest =>
    have hverify : ∀ key, Sha256.verify key written' = Sha256.verify key written := by
      intro key
      rw [Bool.eq_iff_iff, verify_eq_true_iff_of_isDigest (htaken.trans hdigest),
        verify_eq_true_iff_of_isDigest hdigest, Text.Hex.decode?_congr h]
    unfold Grader.digest
    simp only [hverify]
    rfl
  · rfl

end Grader.Definition

/-- **A grader with a digest accepts the keys that have it.**  Let a definition have a digest.  It
gives a grader exactly if 64 hexadecimal digits are written for the digest, in either case, and
otherwise the digest is said to be bad.  If there is a grader, it answers at once, whoever has sent
in the key, and judges the key correct exactly if the 32 octets for which the digits stand are the
digest of the stripped key.  The definition with the same digits in another case gives the same. -/
theorem correct_iff_has_digest {d : Grader.Definition} {written : String}
    (hkind : d.kind = .sha256 written) :
    ((∃ g, d.build = .ok g) ↔
        written.length = 64 ∧ ∀ c ∈ written.toList, Text.Hex.IsDigit c) ∧
      ((¬∃ g, d.build = .ok g) → d.build = .error (.badDigest d.id)) ∧
      (∀ g, d.build = .ok g → ∃ octets, Text.Hex.decode? written.toList = some octets ∧
        octets.length = 32 ∧ ∀ uid? key, ∃ v, g uid? key = .atOnce v ∧
          (v.correct = true ↔ octets = Sha256.digest (Text.utf8 (Text.trim key)))) ∧
      ∀ written', Text.sameIgnoringAsciiCase written' written = true →
        ({ d with kind := .sha256 written' } : Grader.Definition).build = d.build := by
  have hbuild := d.build_sha256 hkind
  have hcase : ∀ written', Text.sameIgnoringAsciiCase written' written = true →
      ({ d with kind := .sha256 written' } : Grader.Definition).build = d.build :=
    fun written' hsame => d.build_sha256_congr hkind hsame
  have hwritten := Grader.Definition.isDigest_iff written
  by_cases hdigest : Grader.Definition.isDigest written = true
  case pos =>
    rw [if_pos hdigest] at hbuild
    obtain ⟨octets, hoctets, hlength⟩ :=
      (Grader.Definition.isDigest_iff_exists_octets written).1 hdigest
    refine ⟨iff_of_true ⟨_, hbuild⟩ (hwritten.1 hdigest), fun hnone => absurd ⟨_, hbuild⟩ hnone,
      fun g hg => ⟨octets, hoctets, hlength, fun uid? key => ?_⟩, hcase⟩
    obtain rfl := Except.ok.inj (hbuild.symm.trans hg)
    refine ⟨_, rfl,
      (Grader.Definition.verify_eq_true_iff_of_isDigest hdigest (Text.trim key)).trans ?_⟩
    rw [hoctets]
    exact Option.some_inj
  case neg =>
    rw [if_neg hdigest] at hbuild
    have hnone : ¬∃ g, d.build = .ok g := by
      rw [hbuild]
      rintro ⟨g, ⟨⟩⟩
    exact ⟨iff_of_false hnone (mt hwritten.2 hdigest), fun _ => hbuild,
      fun g hg => absurd ⟨g, hg⟩ hnone, hcase⟩

/-- A digest written partly in capitals is that of a key between blanks, and not that of the same
key in capitals; written in small letters it gives the same grader.  With a blank in place of its
last digit it is no digest. -/
theorem has_digest_in_capitals :
    let small := "ba7816bf8f01cfea414140de5dae2223b00361a396177a9cb410ff61f20015ad"
    let mixed := "BA7816BF8F01CFEA414140DE5DAE2223b00361a396177a9cb410ff61f20015ad"
    let blank := "ba7816bf8f01cfea414140de5dae2223b00361a396177a9cb410ff61f20015a "
    let d (written : String) : Grader.Definition := ⟨"h", .sha256 written, none, none⟩
    (∃ g, (d mixed).build = .ok g ∧ (∃ v, g none " abc\n" = .atOnce v ∧ v.correct = true) ∧
        (∃ v, g none "ABC" = .atOnce v ∧ v.correct = false) ∧ (d small).build = .ok g) ∧
      (d blank).build = .error (.badDigest "h") := by
  intro small mixed blank d
  have hmixed : Grader.Definition.isDigest mixed = true := by decide +kernel
  have hblank : ¬Grader.Definition.isDigest blank = true := by decide +kernel
  have hsame : Text.sameIgnoringAsciiCase small mixed = true := by decide +kernel
  have hkey : Text.Hex.decode? mixed.toList =
      some (Sha256.digest (Text.utf8 (Text.trim " abc\n"))) := by decide +kernel
  have hother : Text.Hex.decode? mixed.toList ≠
      some (Sha256.digest (Text.utf8 (Text.trim "ABC"))) := by decide +kernel
  obtain ⟨hbuilds, -, hgrades, hcase⟩ := correct_iff_has_digest (d := d mixed) rfl
  obtain ⟨hrefused, hfailure, -⟩ := correct_iff_has_digest (d := d blank) rfl
  obtain ⟨g, hbuild⟩ := hbuilds.2 ((Grader.Definition.isDigest_iff mixed).1 hmixed)
  obtain ⟨octets, hoctets, -, hverdict⟩ := hgrades g hbuild
  obtain ⟨v, hanswer, hcorrect⟩ := hverdict none " abc\n"
  obtain ⟨v', hanswer', hcorrect'⟩ := hverdict none "ABC"
  refine ⟨⟨g, hbuild, ⟨v, hanswer, hcorrect.2 ?_⟩, ⟨v', hanswer', eq_false_of_ne_true ?_⟩,
    (hcase small hsame).trans hbuild⟩, hfailure fun hg =>
      hblank ((Grader.Definition.isDigest_iff blank).2 (hrefused.1 hg))⟩
  · exact Option.some_inj.1 (hoctets.symm.trans hkey)
  · intro htrue
    exact hother (hoctets.trans (congrArg some (hcorrect'.1 htrue)))

end CaptureTheFlag
