import JobImages.Proofs.Json.Places
import JobImages.Proofs.Json.ShortNumber
import JobImages.Proofs.Metadata.ImageField
import JobImages.Proofs.Metadata.Language

/-!
# Numbers on their way to the coordinator

The fields of a job are handed on without being looked at.  Yet a number is not handed on as it was
written: it is read as an exact integer or as a double, and a double is written by its shortest
decimal.  So it arrives unchanged if it is an integer that is kept exactly, or happens to be the
shortest decimal of the double that it is read as, which numbers of few digits are.  All other
numbers arrive as different ones.

## Main definitions

* `Literal.IsKept` — a literal whose number survives being read and written.

## Main results

* `Literal.value_ofNumber_eq_iff` — when what is written denotes what was read;
* `Metadata.number_arrives_iff_kept` — when a number of a job arrives unchanged.
-/

namespace JobImages

namespace Json

/-- The number of a literal is an integer that is kept exactly, or the shortest decimal of the double
that the literal is read as. -/
def Literal.IsKept (literal : Literal) : Prop :=
  (∃ n, literal.integer? = some n) ∨
    ∃ x, literal.real? = some x ∧ literal.value = shortestValue x

/-- What is written for the number of a literal denotes the same if the number is kept. -/
theorem Literal.value_ofNumber_eq_iff {literal : Literal} {n : Number}
    (h : literal.number? = some n) :
    (Literal.ofNumber n).value = literal.value ↔ literal.IsKept := by
  rw [value_ofNumber]
  unfold Literal.number? at h
  cases hinteger : literal.integer? with
  | some m =>
    rw [hinteger] at h
    cases h
    exact iff_of_true (Literal.value_of_integer? hinteger).symm (.inl ⟨m, hinteger⟩)
  | none =>
    rw [hinteger] at h
    obtain ⟨x, hx, rfl⟩ := Option.map_eq_some_iff.1 h
    constructor
    · intro hvalue
      exact .inr ⟨x, hx, hvalue.symm⟩
    · rintro (⟨m, hm⟩ | ⟨y, hy, hvalue⟩)
      · rw [hinteger] at hm
        cases hm
      · cases hx.symm.trans hy
        exact hvalue.symm

/-- Numbers of few digits are kept, whatever kind they are read as. -/
theorem Literal.IsShort.isKept {literal : Literal} (h : literal.IsShort) : literal.IsKept :=
  .inr (value_of_isShort h)

end Json

namespace Metadata

open Json (Selector Literal Members)
open Json.Grammar

variable {path : Path} {text : String} {metadata : Metadata}

/-- However the text of metadata is spelled, it means the object that is read. -/
theorem IsAdmitted.value? {phrase : Phrase} (h : IsAdmitted phrase text)
    (hread : read path text = .ok metadata) : phrase.value? = some metadata.toJson := by
  obtain ⟨value, hvalue⟩ := (Phrase.exists_value?_iff phrase).2 h.meaningful
  have hsame : Json.read text = .ok value :=
    Json.readNested_eq_ok_iff.2 ⟨phrase, h.document, h.nesting, hvalue⟩
  rw [(read_eq_ok_iff.1 hread).1] at hsame
  cases hsame
  exact hvalue

/-- Another member than the image is not touched when the image is added. -/
theorem at?_withImage {key : String} (hkey : key ≠ imageKey) (image : Image)
    (rest : List Selector) :
    (metadata.withImage image).toJson.at? (.member key :: rest) =
      metadata.toJson.at? (.member key :: rest) := by
  show (((metadata.withImage image).get? key).bind fun found => found.at? rest) =
    (metadata.get? key).bind fun found => found.at? rest
  rw [get?_withImage_of_ne metadata image hkey]

/-- What a batch shows of one of its jobs. -/
theorem at?_printBatch {batch : List Metadata} {i : Nat} {submitted : Metadata}
    (hentry : batch[i]? = some submitted) (place : List Selector) :
    (Json.phraseOf (.array (batch.map toJson))).at? (.element i :: place) =
      (Json.phraseOf submitted.toJson).at? place := by
  show ((Json.phrasesOf (batch.map toJson))[i]?.bind fun found => found.at? place) = _
  rw [Json.phrasesOf_eq_map, List.getElem?_map, List.getElem?_map, hentry]
  rfl

/-- **Which numbers arrive.**  The body of a request is a document, and for every number in the text
of a job, in any field but the image and however deep, a number stands at the same place of the
job's entry.  It denotes the same rational number if it is kept exactly as an integer, or if it is
the shortest decimal of the double that it is read as; and only then.  Numbers of at most fifteen
digits and with a moderate exponent are always so. -/
theorem number_arrives_iff_kept (hread : read path text = .ok metadata) (image : Image)
    {batch : List Metadata} {i : Nat} (hentry : batch[i]? = some (metadata.withImage image))
    (uri : Url) :
    let shown := Json.phraseOf (.array (batch.map toJson))
    IsDocument shown (Http.batchSubmission uri batch).body.toList ∧
      (∃ phrase, IsAdmitted phrase text) ∧
      ∀ phrase, IsAdmitted phrase text → ∀ key rest literal, key ≠ imageKey →
        phrase.at? (.member key :: rest) = some (.number literal) →
          ∃ printed, shown.at? (.element i :: .member key :: rest) = some (.number printed) ∧
            (printed.value = literal.value ↔ literal.IsKept) ∧
              (literal.IsShort → printed.value = literal.value) := by
  intro shown
  have hfits : Json.Fits Json.depthLimit (metadata.withImage image).toJson :=
    (Authored.withImage (.read hread) image).fits
  refine ⟨Json.isDocument_print _, ?_, fun phrase hphrase key rest literal hkey hplace => ?_⟩
  · obtain ⟨parts, -, hadmitted, -, -⟩ := (read_eq_ok_iff_describes.1 hread).1
    exact ⟨_, hadmitted⟩
  · -- What the text says at the place means what stands there in the object that is read.
    have hmeans := Phrase.map_value?_at? (hphrase.value? hread) (.member key :: rest)
    rw [hplace, Option.map_some] at hmeans
    obtain ⟨found, hfound, hvalue⟩ := Option.map_eq_some_iff.1 hmeans.symm
    obtain ⟨n, hnumber, rfl⟩ := Option.map_eq_some_iff.1 hvalue.symm
    have hiff := Literal.value_ofNumber_eq_iff hnumber
    refine ⟨Literal.ofNumber n, ?_, hiff, fun hshort => hiff.2 hshort.isKept⟩
    rw [at?_printBatch hentry, Json.at?_phraseOf hfits, at?_withImage hkey, hfound]
    rfl

/-! ### A job of nothing but its name and a number -/

/-- The phrase of a job with a name and a number. -/
def numberJob (literal : Literal) : Phrase :=
  .object [(pieces "name", .string (pieces "w")), (pieces "n", .number literal)]

theorem nesting_numberJob (literal : Literal) : (numberJob literal).nesting = 1 := rfl

/-- The text of such a job is admitted, and read as the name and the number that the literal is
read as. -/
theorem read_numberJob (path : Path) {literal : Literal} {digits : List Char} {n : Json.Number}
    (hliteral : IsNumber literal digits) (hnumber : literal.number? = some n)
    (htext : text.toList =
      '\x7b' :: (Json.writeString "name" ++ ':' :: Json.writeString "w" ++
        ',' :: (Json.writeString "n" ++ ':' :: digits) ++ ['\x7d'])) :
    read path text = .ok { members := [("name", .string "w"), ("n", .number n)] } ∧
      IsAdmitted (numberJob literal) text := by
  have hmeans : (numberJob literal).value? =
      some (.object [("name", .string "w"), ("n", .number n)]) := by
    have hwrites : Phrase.writes?
        [(pieces "name", .string (pieces "w")), (pieces "n", .number literal)] =
          some [("name", .string "w"), ("n", .number n)] := by
      simp only [Phrase.writes?_cons_eq_some_iff, Phrase.value?, Json.textOf?_pieces, hnumber]
      exact ⟨_, _, _, rfl, rfl, ⟨_, _, _, rfl, rfl, rfl, rfl⟩, rfl⟩
    rw [numberJob, Phrase.value?, hwrites, Option.map_some, ← Members.ofWrites_eq_kept]
    rfl
  have hdocument : IsDocument (numberJob literal) text.toList := by
    have hname : IsMember IsValue (pieces "name", .string (pieces "w"))
        (Json.writeString "name" ++ ':' :: Json.writeString "w") :=
      Json.isMember_writeMember (.string (Json.isString_writeString "w"))
    have hfield : IsMember IsValue (pieces "n", .number literal)
        (Json.writeString "n" ++ ':' :: digits) :=
      Json.isMember_writeMember (.number hliteral)
    rw [htext]
    exact (IsValue.object (.comma_cons hname (.single hfield))).isDocument
  have hnesting : (numberJob literal).nesting ≤ Json.depthLimit := by
    rw [nesting_numberJob]
    decide
  exact ⟨read_eq_ok_iff.2 ⟨Json.readNested_eq_ok_iff.2 ⟨_, hdocument, hnesting, hmeans⟩, "w", rfl⟩,
    hdocument, hnesting, (Phrase.exists_value?_iff _).1 ⟨_, hmeans⟩⟩

/-- One and a half has two digits, so it arrives. -/
theorem number_arrives_of_one_and_a_half :
    let literal : Literal :=
      { negative := false, whole := ['1'], fraction := some ['5'], exponent := none }
    let text := "\x7b\"name\":\"w\",\"n\":1.5\x7d"
    let submitted := Metadata.withImage
      { members := [("name", .string "w"),
          ("n", .number (.real { negative := false, units := 3 * 2 ^ 1073 }))] } ⟨"r/t-w:latest"⟩
    IsAdmitted (numberJob literal) text ∧
      ∃ printed, (Json.phraseOf (.array ([submitted].map toJson))).at? [.element 0, .member "n"] =
          some (.number printed) ∧ printed.value = 3 / 2 := by
  intro literal text submitted
  let x : Binary64 := { negative := false, units := 3 * 2 ^ 1073 }
  have hnumber : literal.number? = some (.real x) := by
    unfold literal x
    decide +kernel
  have hliteral : IsNumber literal ['1', '.', '5'] := by
    have hwhole : IsWhole ['1'] := Json.Reader.isWhole_decimal 1
    have hfraction : IsDigits ['5'] := Json.isDigits_decimal 5
    exact .positive hwhole (.present hfraction) .absent
  have hspelled : text.toList =
      '\x7b' :: (Json.writeString "name" ++ ':' :: Json.writeString "w" ++
        ',' :: (Json.writeString "n" ++ ':' :: ['1', '.', '5']) ++ ['\x7d']) := by
    decide +kernel
  have hread := (read_numberJob ⟨"job.json"⟩ hliteral hnumber hspelled).1
  have hadmitted := (read_numberJob ⟨"job.json"⟩ hliteral hnumber hspelled).2
  have hvalue : literal.value = 3 / 2 := by
    have hdigits : literal.value = (15 : Nat) * 10 ^ (-1 : Int) :=
      Literal.value_of_digits rfl (k := 0) rfl rfl
    rw [hdigits]
    norm_num
  have hshort : literal.IsShort :=
    { digits_lt := by decide, exponent_ge := by decide, exponent_le := by decide
      power_lt := by decide }
  let uri : Url :=
    { scheme := "http".toList, authority := none, route := .segments [], query := none
      fragment := none }
  have hentry : [submitted][0]? = some submitted := rfl
  obtain ⟨-, -, harrives⟩ := number_arrives_iff_kept hread ⟨"r/t-w:latest"⟩ hentry uri
  obtain ⟨printed, hprinted, -, hsame⟩ := harrives _ hadmitted "n" [] literal (by decide) rfl
  exact ⟨hadmitted, printed, hprinted, (hsame hshort).trans hvalue⟩

/-- The least integer that no word holds and no double is arrives as the shortest decimal of a
double, which is greater by 383. -/
theorem number_arrives_changed :
    let literal : Literal :=
      { negative := false
        whole := Json.decimal 18446744073709551617
        fraction := none
        exponent := none }
    let text := "\x7b\"name\":\"w\",\"n\":18446744073709551617\x7d"
    let metadata : Metadata :=
      { members := [("name", .string "w"),
          ("n", .number (.real { negative := false, units := 2 ^ 64 * Binary64.one }))] }
    let submitted := metadata.withImage ⟨"r/t-w:latest"⟩
    read ⟨"job.json"⟩ text = .ok metadata ∧ IsAdmitted (numberJob literal) text ∧
      submitted.print =
        "\x7b\"name\":\"w\",\"n\":1.8446744073709552e+19,\"image_name\":\"r/t-w:latest\"\x7d" ∧
      (numberJob literal).at? [.member "n"] = some (.number literal) ∧
      literal.value = 18446744073709551617 ∧
      ∃ printed, (Json.phraseOf submitted.toJson).at? [.member "n"] = some (.number printed) ∧
        printed.value = 18446744073709552000 := by
  intro literal text metadata submitted
  let x : Binary64 := { negative := false, units := 2 ^ 64 * Binary64.one }
  have hnumber : literal.number? = some (.real x) := by
    unfold literal x
    decide +kernel
  have hliteral : IsNumber literal (Json.decimal 18446744073709551617) := by
    simpa using IsNumber.positive (Json.Reader.isWhole_decimal _) .absent .absent
  have hspelled : text.toList =
      '\x7b' :: (Json.writeString "name" ++ ':' :: Json.writeString "w" ++
        ',' :: (Json.writeString "n" ++ ':' :: Json.decimal 18446744073709551617) ++
          ['\x7d']) := by
    decide +kernel
  obtain ⟨hread, hadmitted⟩ := read_numberJob ⟨"job.json"⟩ hliteral hnumber hspelled
  have hwritten : literal.value = 18446744073709551617 := by
    have hdigits : literal.value = (18446744073709551617 : Nat) * 10 ^ (0 : Int) := by
      refine Literal.value_of_digits rfl (k := 0) ?_ rfl
      have hfraction : literal.fractionDigits = [] := rfl
      rw [hfraction, List.append_nil, pow_zero, Nat.mul_one]
      exact Json.digitsValue_decimal 18446744073709551617
    rw [hdigits]
    norm_num
  have hprinted : Literal.value (Literal.ofReal x) = 18446744073709552000 := by
    have hshortest : Binary64.shortest x.units = { digits := 18446744073709552, exponent := 3 } := by
      unfold x
      decide +kernel
    have hzero : x.isZero = false := by
      unfold x
      decide +kernel
    rw [Json.value_ofReal, Json.shortestValue, hzero, hshortest]
    norm_num [x, Decimal.value]
  exact ⟨hread, hadmitted, by decide +kernel, rfl, hwritten, Literal.ofReal x, rfl, hprinted⟩

end Metadata

end JobImages
