import CaptureTheFlag.Grader.Definition
import CaptureTheFlag.Proofs.Text.Blank

/-!
# Which definitions can be solved by the flag that they declare

A definition with one flag for all declares that flag, and a definition with a flag for every user
declares the flag that the user is given.  A grader strips the key, and compares it with the
declared flag as that is.

* `Grader.Definition.declared?`: the flag that a definition declares for a user.
* `Grader.Definition.IsPadded`: what is written down would put blanks at the ends of this flag.
* `Grader.Definition.exists_build_of_declared?`: the grader compares stripped keys with the flag.
* `declared_correct_iff`: the declared flag is judged correct, or it is padded and no key is.
* `padded_flag_judged_incorrect`: a flag between blanks cannot be sent in.

## Flags with blanks at their ends

All such definitions are accepted, so nothing tells those apart that nobody can solve.  For a flag
that stands in the definition both of its ends count.  A user's flag ends in a brace, so only the
start of what stands before the braces counts, and there may be blanks at its end.
-/

namespace CaptureTheFlag

namespace Grader

/-- A user's flag starts with what is chosen to stand before its braces, and ends in a brace. -/
theorem isPadded_flagFor_iff (secret label uid : String) :
    Text.IsPadded (flagFor secret label uid) ↔
      ∃ c, label.toList.head? = some c ∧ Text.isBlank c = true := by
  obtain ⟨shown, hflag⟩ : ∃ shown : List Char,
      (flagFor secret label uid).toList = label.toList ++ ('\x7b' :: shown ++ ['\x7d']) := by
    refine ⟨(Sha256.hexDigest (secret ++ ":" ++ uid)).toList.take flagDigits, ?_⟩
    unfold flagFor
    simp
  have hlast : (flagFor secret label uid).toList.getLast? = some '\x7d' := by
    rw [hflag, ← List.append_assoc, List.getLast?_concat]
  have hfirst : (flagFor secret label uid).toList.head? = label.toList.head?.or (some '\x7b') := by
    rw [hflag, List.head?_append]
    rfl
  unfold Text.IsPadded
  rw [hfirst, hlast]
  constructor
  · rintro ⟨c, hfound | hfound, hblank⟩
    · cases hlabel : label.toList.head? with
      | none =>
        rw [hlabel] at hfound
        obtain rfl := Option.some.inj hfound
        exact absurd hblank (by decide)
      | some d =>
        rw [hlabel] at hfound
        exact ⟨c, hfound, hblank⟩
    · obtain rfl := Option.some.inj hfound
      exact absurd hblank (by decide)
  · rintro ⟨c, hlabel, hblank⟩
    exact ⟨c, Or.inl (by rw [hlabel]; rfl), hblank⟩

namespace Definition

/-- The flag that a definition declares for a user. -/
def declared? (d : Definition) (uid : String) : Option String :=
  match d.kind with
  | .flag flag _ => some flag
  | .perUser secret label => some (flagFor secret (label.getD defaultLabel) uid)
  | .sha256 _ | .regex _ => none

/-- The flag that stands in the definition starts or ends with a blank; or what is to stand before
the braces of users' flags starts with one. -/
def IsPadded (d : Definition) : Prop :=
  match d.kind with
  | .flag flag _ => Text.IsPadded flag
  | .perUser _ label =>
    ∃ c, (label.getD defaultLabel).toList.head? = some c ∧ Text.isBlank c = true
  | .sha256 _ | .regex _ => False

/-- The key is the flag, as the definition compares the two. -/
def Accepts (d : Definition) (flag key : String) : Prop :=
  match d.kind with
  | .flag _ true => Text.sameIgnoringAsciiCase key flag = true
  | _ => key = flag

variable {d : Definition}

theorem accepts_self (d : Definition) (flag : String) : d.Accepts flag flag := by
  unfold Accepts
  split
  · exact beq_self_eq_true _
  · rfl

/-- A padded flag is not accepted for a key that is not padded, and the other way round. -/
theorem Accepts.isPadded_iff {flag key : String} (h : d.Accepts flag key) :
    Text.IsPadded key ↔ Text.IsPadded flag := by
  unfold Accepts at h
  split at h
  · exact Text.isPadded_congr h
  · rw [h]

/-- A definition is padded if the flags are that it declares. -/
theorem isPadded_iff {uid flag : String} (h : d.declared? uid = some flag) :
    d.IsPadded ↔ Text.IsPadded flag := by
  unfold declared? at h
  unfold IsPadded
  cases hkind : d.kind with
  | flag flag' caseInsensitive =>
    rw [hkind] at h
    obtain rfl := Option.some.inj h
    exact Iff.rfl
  | perUser secret label =>
    rw [hkind] at h
    obtain rfl := Option.some.inj h
    exact (isPadded_flagFor_iff _ _ _).symm
  | _ =>
    rw [hkind] at h
    cases h

/-- A definition declares flags for all users or for none. -/
theorem exists_declared? {uid flag : String} (h : d.declared? uid = some flag) (uid' : String) :
    ∃ flag', d.declared? uid' = some flag' := by
  unfold declared? at h ⊢
  cases hkind : d.kind with
  | flag _ _ => exact ⟨_, rfl⟩
  | perUser _ _ => exact ⟨_, rfl⟩
  | _ =>
    rw [hkind] at h
    cases h

/-- **A definition that declares a flag is accepted, and its grader compares the stripped key with
the flag that is declared for the user.** -/
theorem exists_build_of_declared? {uid flag : String} (h : d.declared? uid = some flag) :
    ∃ g, d.build = .ok g ∧ ∀ uid flag, d.declared? uid = some flag → ∀ key,
      ∃ correct : Bool, g (some uid) key = .atOnce (d.messages.verdict correct) ∧
        (correct = true ↔ d.Accepts flag (Text.trim key)) := by
  unfold declared? at h ⊢
  unfold build Accepts
  cases hkind : d.kind with
  | flag flag' caseInsensitive =>
    refine ⟨_, rfl, fun uid flag hflag key => ⟨_, rfl, ?_⟩⟩
    obtain rfl := Option.some.inj hflag
    cases caseInsensitive with
    | true => exact Iff.rfl
    | false => exact decide_eq_true_iff
  | perUser secret label =>
    refine ⟨_, rfl, fun uid flag hflag key => ⟨_, rfl, ?_⟩⟩
    obtain rfl := Option.some.inj hflag
    exact decide_eq_true_iff
  | _ =>
    rw [hkind] at h
    cases h

end Definition

end Grader

/-- **The declared flag is judged correct unless it is padded.**  A definition that declares flags
is accepted.  Its grader answers at once, and judges the flag that is declared for a user correct
for this user exactly if the definition is not padded: the flag that it has neither starts nor ends
with a blank, or what it has for the start of users' flags does not start with one.  If it is
padded, every key is judged incorrect for every user, so nobody can solve it. -/
theorem declared_correct_iff {d : Grader.Definition} {uid flag : String}
    (h : d.declared? uid = some flag) :
    ∃ g, d.build = .ok g ∧
      (∃ v, g (some uid) flag = .atOnce v ∧ (v.correct = true ↔ ¬d.IsPadded)) ∧
      (d.IsPadded → ∀ uid' key, ∃ v, g (some uid') key = .atOnce v ∧ v.correct = false) := by
  obtain ⟨g, hbuild, hgrade⟩ := Grader.Definition.exists_build_of_declared? h
  refine ⟨g, hbuild, ?_, fun hpadded uid' key => ?_⟩
  · obtain ⟨correct, hanswer, hcorrect⟩ := hgrade uid flag h flag
    refine ⟨_, hanswer, hcorrect.trans ?_⟩
    rw [Grader.Definition.isPadded_iff h]
    constructor
    · intro haccepts hpadded
      exact Text.not_isPadded_trim flag (haccepts.isPadded_iff.2 hpadded)
    · intro hpadded
      rw [(Text.trim_eq_self_iff flag).2 hpadded]
      exact d.accepts_self flag
  · obtain ⟨flag', hflag'⟩ := Grader.Definition.exists_declared? h uid'
    obtain ⟨correct, hanswer, hcorrect⟩ := hgrade uid' flag' hflag' key
    refine ⟨_, hanswer, eq_false_of_ne_true fun htrue => ?_⟩
    -- what is left of the key is not padded, and the flag is
    exact Text.not_isPadded_trim key
      ((hcorrect.1 htrue).isPadded_iff.2 ((Grader.Definition.isPadded_iff hflag').1 hpadded))

/-- A flag with a blank inside is judged correct in any case, and so is a user's flag with a blank
before its braces; but a user's flag that starts with a blank cannot be sent in. -/
theorem declared_correct_of_blanks :
    let capture : Grader.Definition := ⟨"w", .flag "the flag" true, none, none⟩
    let own (label : String) : Grader.Definition :=
      ⟨"o", .perUser "s3cret" (some label), none, none⟩
    (∃ g v, capture.build = .ok g ∧ g (some "ada") "the flag" = .atOnce v ∧ v.correct = true) ∧
    (∃ g v, (own "flag ").build = .ok g ∧
      g (some "ada") (Grader.flagFor "s3cret" "flag " "ada") = .atOnce v ∧ v.correct = true) ∧
    ∃ g, (own " flag").build = .ok g ∧
      ∀ uid key, ∃ v, g (some uid) key = .atOnce v ∧ v.correct = false := by
  intro capture own
  have hdeclared : capture.declared? "ada" = some "the flag" := rfl
  have hown (label : String) :
      (own label).declared? "ada" = some (Grader.flagFor "s3cret" label "ada") := rfl
  have hcapture : ¬capture.IsPadded := by
    rw [Grader.Definition.isPadded_iff hdeclared, ← Text.trim_eq_self_iff]
    decide
  have hinner : ¬(own "flag ").IsPadded := by
    rintro ⟨c, hc, hblank⟩
    obtain rfl : 'f' = c := Option.some.inj hc
    exact absurd hblank (by decide)
  have houter : (own " flag").IsPadded := ⟨' ', rfl, rfl⟩
  obtain ⟨g, hbuild, ⟨v, hanswer, hcorrect⟩, -⟩ := declared_correct_iff hdeclared
  obtain ⟨g', hbuild', ⟨v', hanswer', hcorrect'⟩, -⟩ := declared_correct_iff (hown "flag ")
  obtain ⟨g'', hbuild'', -, hnobody⟩ := declared_correct_iff (hown " flag")
  exact ⟨⟨g, v, hbuild, hanswer, hcorrect.2 hcapture⟩,
    ⟨g', v', hbuild', hanswer', hcorrect'.2 hinner⟩, g'', hbuild'', hnobody houter⟩

/-- A flag between blanks is accepted as a definition, and judged incorrect as a key. -/
theorem padded_flag_judged_incorrect :
    let d : Grader.Definition := ⟨"w", .flag " flag " false, none, none⟩
    d.declared? "ada" = some " flag " ∧
      ∃ g, d.build = .ok g ∧ g (some "ada") " flag " = .atOnce ⟨false, "Incorrect."⟩ := by
  intro d
  refine ⟨rfl, _, rfl, ?_⟩
  have hstripped : Text.trim " flag " ≠ " flag " := by decide
  have hincorrect : decide (Text.trim " flag " = " flag ") = false := decide_eq_false hstripped
  show Grader.Answer.atOnce (d.messages.verdict (decide (Text.trim " flag " = " flag "))) = _
  rw [hincorrect]
  rfl

end CaptureTheFlag
