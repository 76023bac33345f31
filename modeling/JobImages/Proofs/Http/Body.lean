import JobImages.Proofs.Http.Exchange
import JobImages.Proofs.Json.Scan

/-!
# The body of a submission

Job authors choose most of what is submitted, keys and strings of any characters.  The text that is
made of it has no controls, and its strings are found in it as they were given.  So what an author
writes neither begins a line of its own on the output nor is taken for anything but a string.

## Main results

* `Text.le_of_mem_toBytes` — a text without controls has no control bytes;
* `Http.errorOutput_submit` — what is shown of a submission on standard error;
* `Http.stringsOfItems_map_toJson` — the keys and strings of a batch;
* `Http.body_stays_in_its_line_and_strings` — the law of the body.
-/

namespace JobImages

/-! ## Bytes -/

/-- The bytes of a character that is no control are none. -/
theorem Text.le_of_mem_utf8EncodeChar {c : Char} (h : 0x20 ≤ c.toNat) {byte : UInt8}
    (hbyte : byte ∈ String.utf8EncodeChar c) : 0x20 ≤ byte := by
  have hofNat : ∀ n < 256, 0x20 ≤ n → 0x20 ≤ UInt8.ofNat n := by
    intro n hn hle
    rw [UInt8.le_iff_toNat_le, UInt8.toNat_ofNat_of_lt' hn]
    exact hle
  have hval : 0x20 ≤ c.val.toNat := h
  rw [String.utf8EncodeChar.eq_1] at hbyte
  generalize c.val.toNat = n at hval hbyte
  -- A single byte is the character itself, and one of several has its highest bit set.
  split at hbyte
  · rw [List.mem_singleton] at hbyte
    rw [hbyte]
    exact hofNat _ (by omega) hval
  · split at hbyte
    · simp only [List.mem_cons, List.not_mem_nil, or_false] at hbyte
      rcases hbyte with rfl | rfl <;> exact hofNat _ (by omega) (by omega)
    · split at hbyte
      · simp only [List.mem_cons, List.not_mem_nil, or_false] at hbyte
        rcases hbyte with rfl | rfl | rfl <;> exact hofNat _ (by omega) (by omega)
      · simp only [List.mem_cons, List.not_mem_nil, or_false] at hbyte
        rcases hbyte with rfl | rfl | rfl | rfl <;> exact hofNat _ (by omega) (by omega)

theorem Text.le_of_mem_toBytes {text : String} (h : ∀ c ∈ text.toList, 0x20 ≤ c.toNat)
    {byte : UInt8} (hbyte : byte ∈ Text.toBytes text) : 0x20 ≤ byte := by
  obtain ⟨c, hc, hmem⟩ := List.mem_flatMap.1 hbyte
  exact le_of_mem_utf8EncodeChar (h c hc) hmem

namespace Http

/-! ## What is shown of a submission -/

section Submission

variable (network : Network) (uri : Url) (earlier : List (List Metadata)) (batch : List Metadata)

/-- The line that shows a body. -/
def bodyLine : String :=
  "making req with body " ++ (batchSubmission uri batch).body

/-- What comes of a batch does not depend on what is in it. -/
theorem result_exchangeAfter_plain (timeoutSeconds : Nat) (other : List Metadata) :
    (exchangeAfter network uri timeoutSeconds .plain earlier other).result =
      (exchangeAfter network uri timeoutSeconds .plain earlier batch).result := by
  have hplain (batch : List Metadata) :
      exchangeAfter network uri timeoutSeconds .plain earlier batch = _ :=
    Client.exchange_plain (clientOptions timeoutSeconds) network _ (post uri batch)
  rw [hplain, hplain]
  simp only [post]
  split <;> rfl

theorem errorOutput_map_sent (admits : Log.Record → Bool) (requests : List Request) :
    (requests.map Effect.sent).flatMap (Effect.errorOutput admits) = [] := by
  simp [Effect.errorOutput]

/-- On standard error nothing of the jobs is shown but their number. -/
theorem errorOutput_submit (admits : Log.Record → Bool) {other : List Metadata}
    (h : other.length = batch.length) :
    ((coordinator network uri).submit earlier other).trace.errorOutput admits =
      ((coordinator network uri).submit earlier batch).trace.errorOutput admits := by
  have hfields : submissionFields uri other = submissionFields uri batch := by
    rw [submissionFields, submissionFields, h]
  have hposting : posting uri other = posting uri batch := by
    rw [posting, posting, hfields]
  have haccepting : accepting uri other = accepting uri batch := by
    rw [accepting, accepting, hfields]
  have heffects (batch : List Metadata) :
      ((coordinator network uri).respond earlier batch).effects =
        .printed _ :: .logged (posting uri batch) ::
          (conclude uri batch (exchangeAfter network uri 30 .plain earlier batch)).effects := rfl
  have hresult := result_exchangeAfter_plain network uri earlier batch 30 other
  simp only [Coordinator.submit, Run.turnTo, Trace.errorOutput_cons_step,
    Trace.errorOutput_map_effect, heffects, List.flatMap_cons, conclude, List.flatMap_append,
    errorOutput_map_sent, hresult, hposting, haccepting]
  rfl

theorem eq_of_mem_requests_submit :
    ∀ request ∈ ((coordinator network uri).submit earlier batch).trace.requests,
      request = batchSubmission uri batch := by
  rw [requests_submit]
  rcases sent_exchangeAfter Library.documented_plain earlier batch with h | h
  · rw [h]
    exact List.forall_mem_nil _
  · rw [h]
    exact List.forall_mem_singleton.2 rfl

end Submission

/-! ## The body -/

section Body

variable (uri : Url) (batch : List Metadata)

theorem toList_body :
    (batchSubmission uri batch).body.toList =
      Json.write (.array (batch.map Metadata.toJson)) :=
  String.toList_ofList

/-- The keys and strings of a batch are those of its members, in order. -/
theorem stringsOfItems_map_toJson :
    Json.stringsOfItems (batch.map Metadata.toJson) =
      batch.flatMap fun metadata => Json.stringsOfMembers metadata.members := by
  induction batch with
  | nil => rfl
  | cons metadata rest ih =>
    rw [List.map_cons, Json.stringsOfItems, ih, List.flatMap_cons]
    rfl

theorem le_of_mem_body {c : Char} (h : c ∈ (batchSubmission uri batch).body.toList) :
    0x20 ≤ c.toNat := by
  rw [toList_body] at h
  exact Json.not_control_of_mem_write h

theorem le_of_mem_bodyLine {c : Char} (h : c ∈ (bodyLine uri batch).toList) : 0x20 ≤ c.toNat := by
  have hfront : ∀ d ∈ "making req with body ".toList, 0x20 ≤ d.toNat := by simp
  unfold bodyLine at h
  rw [String.toList_append] at h
  exact (List.mem_append.1 h).elim (hfront c) (le_of_mem_body uri batch)

end Body

/-- **The body stays in its line, and its strings in their quotes.**  No character of a submitted
body is a control.  So a submission prints one line, the one that shows the body, in which no byte
is a line feed; on standard error it shows nothing of the jobs but their number.  A scan of the body
for strings comes to its end and loses nothing: it finds the keys and strings of the metadata, in
order, each spelled so that it is read as it was given, and between them nothing but structural
characters, the three words and numbers. -/
theorem body_stays_in_its_line_and_strings (network : Network) (uri : Url)
    (earlier : List (List Metadata)) (batch : List Metadata) :
    let body := (batchSubmission uri batch).body
    let submission := ((coordinator network uri).submit earlier batch).trace
    let line := Text.toBytes ("making req with body " ++ body)
    (∀ c ∈ body.toList, 0x20 ≤ c.toNat) ∧
      (∀ request ∈ submission.requests, request.body = body) ∧
      submission.output = line ++ [10] ∧ (∀ byte ∈ line, 0x20 ≤ byte) ∧
      (∀ (admits : Log.Record → Bool) (other : List Metadata), other.length = batch.length →
        ((coordinator network uri).submit earlier other).trace.errorOutput admits =
          submission.errorOutput admits) ∧
      ∃ tokens, Json.scan body.toList = some tokens ∧
        tokens.flatMap Json.Token.text = body.toList ∧
        (∀ token ∈ tokens, token.IsProper) ∧
        List.Forall₂
          (fun spelled string =>
            Json.Grammar.IsCharacters (Json.Grammar.pieces string) spelled ∧
              ∀ rest, Json.Reader.string (spelled ++ '"' :: rest) = .ok (string, rest))
          (tokens.filterMap Json.Token.literal?)
          (batch.flatMap fun metadata => Json.stringsOfMembers metadata.members) := by
  intro body submission line
  obtain ⟨tokens, hscan, hproper, hstrings⟩ :=
    Json.scan_write (.array (batch.map Metadata.toJson))
  refine ⟨fun c hc => ?_, fun request hrequest => ?_, ?_, fun byte hbyte => ?_,
    fun admits other hother => ?_, tokens, ?_, ?_, hproper, ?_⟩
  · exact le_of_mem_body uri batch hc
  · exact congrArg Request.body
      (eq_of_mem_requests_submit network uri earlier batch request hrequest)
  · exact output_submit network uri 30 .plain earlier batch
  · exact Text.le_of_mem_toBytes (fun c => le_of_mem_bodyLine uri batch) hbyte
  · exact errorOutput_submit network uri earlier batch admits hother
  · rw [toList_body]
    exact hscan
  · rw [toList_body]
    exact Json.text_of_scan hscan
  · rw [← stringsOfItems_map_toJson]
    exact hstrings.imp fun spelled string h => ⟨h, Json.string_of_isCharacters h⟩

end Http

end JobImages
