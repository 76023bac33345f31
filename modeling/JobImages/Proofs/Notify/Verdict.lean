import JobImages.Proofs.Notify.Submission

/-!
# How notifying ends

A run that notifies ends with the coordinator's verdict if there was an answer, and otherwise with
an error of another kind: one of the settings, of the catalog or of the connection.

## Main results

* `Catalog.fault?_ofTree_ne_rejected` — files do not reject anything;
* `Notify.result_run_of_response`, `Notify.result_run_of_no_response` — how a run ends.
-/

namespace JobImages

/-! ## Errors of files -/

namespace Catalog

/-- No error of a tree of files is a rejection. -/
theorem fault?_ofTree_ne_rejected {files : FileTree} {settings : JobSettings} {error : Error}
    (h : (ofTree files settings).fault? = some error) (status : Nat) (body : String) :
    error ≠ .rejected status body := by
  rintro rfl
  exact isOfFiles_of_fault?_ofTree h

end Catalog

namespace Notify

section

variable {settings : NotifySettings} {files : FileTree} {network : Network}
  {library : Http.Library} (hdocumented : library.Documented)

/-- An error that keeps a run from its beginning is one of the settings. -/
theorem opening_ne_rejected {error : Error} (h : opening settings library = .error error)
    (status : Nat) (body : String) : error ≠ .rejected status body := by
  rintro rfl
  cases hcheck : settings.check with
  | error problem =>
    rw [opening_of_check_error hcheck] at h
    cases h
  | ok value =>
    rw [opening_of_check hcheck, Http.created] at h
    cases hcreate : library.create
        (Http.clientOptions settings.coordinator.timeoutSeconds) with
    | error reason =>
      rw [hcreate] at h
      cases h
    | ok value =>
      rw [hcreate] at h
      cases h

include hdocumented

/-- A delivery gets a response if its request is sent and answered with that. -/
theorem result_delivered_eq_ok_iff (listing : List Catalog.Entry) (response : Http.Response) :
    (delivered settings network library listing).result = .ok response ↔
      (∃ request, (delivered settings network library listing).sent = [request]) ∧
        network.response? 0 = some response := by
  have hiff : (delivered settings network library listing).result = .ok response ↔
      (delivered settings network library listing).sent =
          [Http.batchSubmission settings.coordinator.uri
            (listing.filterMap (contribution? settings.jobs))] ∧
        network.response? 0 = some response :=
    Http.result_exchangeAfter_eq_ok_iff hdocumented _ response
  rw [hiff]
  refine and_congr_left fun _ => ⟨fun h => ⟨_, h⟩, fun ⟨request, hrequest⟩ => ?_⟩
  -- What is sent is the request that submits the batch, or nothing.
  have hsent : (delivered settings network library listing).sent = [] ∨ _ :=
    Http.sent_exchangeAfter hdocumented [] _
  rcases hsent with hnone | hone
  · cases hnone.symm.trans hrequest
  · exact hone

/-- If the request of a run is answered, the run ends as the coordinator says. -/
theorem result_run_of_response {request : Http.Request} {response : Http.Response}
    (hrequest : (run settings files network library).trace.requests = [request])
    (hresponse : network.response? 0 = some response) :
    ((run settings files network library).result.map fun _ => ()) =
      Coordinator.verdict response.status response.body := by
  rcases run_cases settings files network library with
    ⟨error, -, hrun⟩ | ⟨-, error, -, hrun⟩ | ⟨-, -, hrun⟩
  · rw [hrun] at hrequest
    cases hrequest
  · rw [hrun] at hrequest
    cases (requests_gather settings _).symm.trans hrequest
  · rw [hrun] at hrequest ⊢
    rw [Trace.requests_append, requests_gather, List.nil_append, requests_delivery] at hrequest
    have hresult := (result_delivered_eq_ok_iff hdocumented
      (Catalog.ofTree files settings.jobs).listed response).2 ⟨⟨request, hrequest⟩, hresponse⟩
    rw [result_delivery, hresult]
    show ((Coordinator.verdict response.status response.body).map _).map _ = _
    cases Coordinator.verdict response.status response.body <;> rfl

/-- A run whose request is not answered, or that sends none, ends with an error that is no
rejection. -/
theorem result_run_of_no_response
    (h : ∀ request, (run settings files network library).trace.requests = [request] →
      network.response? 0 = none) :
    ∃ error, (run settings files network library).result = .error error ∧
      ∀ status body, error ≠ .rejected status body := by
  rcases run_cases settings files network library with
    ⟨error, hopening, hrun⟩ | ⟨-, error, hfault, hrun⟩ | ⟨-, -, hrun⟩
  · rw [hrun]
    exact ⟨error, rfl, opening_ne_rejected hopening⟩
  · rw [hrun]
    exact ⟨error, rfl, Catalog.fault?_ofTree_ne_rejected hfault⟩
  · rw [hrun, Trace.requests_append, requests_gather, List.nil_append, requests_delivery] at h
    rw [hrun, result_delivery]
    cases hresult : (delivered settings network library
        (Catalog.ofTree files settings.jobs).listed).result with
    | error failure => exact ⟨.http failure, rfl, fun status body heq => by cases heq⟩
    | ok response =>
      -- A response is that to a request that was sent.
      obtain ⟨⟨request, hrequest⟩, hresponse⟩ :=
        (result_delivered_eq_ok_iff hdocumented _ response).1 hresult
      cases (h request hrequest).symm.trans hresponse

end

end Notify

end JobImages
