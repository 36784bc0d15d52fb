import Mathlib.Order.Bounds.Defs
import ObjectRelay.Delivery.Client
/-!
# What a delivery posts

A delivery repeats one request until a reply settles it, so if the endpoint takes the batch it does so once, and the
delivery ends well exactly then (`taken_post`).
-/
namespace ObjectRelay

/-- Whether the reply says that the batch has arrived. -/
def Reply.isTaken : Reply → Bool
  | .status code => [200, 202, 204].contains code
  | .lost => false

/-- The requests of a delivery, each with the reply that it met. -/
def Delivery.exchanges (d : Delivery) (replies : Nat → Reply) : List (PostRequest × Reply) :=
  d.requests.zipIdx.map fun (request, attempt) => (request, replies attempt)

/-- Whether a reply leaves nothing to be gained by another attempt: the batch has arrived, or the endpoint refuses it
with a status that is neither 429 nor one of a server error. -/
def Reply.Settles : Reply → Prop
  | .status code => code ∈ [200, 202, 204] ∨ ¬(code = 429 ∨ 500 ≤ code ∧ code < 600)
  | .lost => False

instance : ∀ reply : Reply, Decidable reply.Settles
  | .status _ => inferInstanceAs (Decidable (_ ∨ ¬_))
  | .lost => inferInstanceAs (Decidable False)

/-- The error of a reply that is no success. -/
def Reply.error : Reply → DeliveryError
  | .status code => .status code (statusReason code)
  | .lost => .request

/-- The result of a delivery whose last attempt meets the reply. -/
def Reply.result (reply : Reply) : Except DeliveryError Unit := if reply.isTaken then .ok () else .error reply.error

theorem Reply.isOk_result (reply : Reply) : reply.result.isOk = reply.isTaken := by
  unfold Reply.result
  cases reply.isTaken <;> rfl

theorem Reply.settles_of_isTaken {reply : Reply} (h : reply.isTaken = true) : reply.Settles := by
  cases reply with
  | status code => exact .inl (List.contains_iff_mem.1 h)
  | lost => cases h

namespace Client

variable {client : Client}

/-- **What a reply means**: the delivery ends with its result if it settles the batch, and may be tried again if not. -/
theorem verdict_eq (reply : Reply) :
    verdict reply = if reply.Settles then .over reply.result else .again reply.error := by
  cases reply with
  | lost => rfl
  | status code =>
    have htaken : isAccepted code = (Reply.status code).isTaken := by
      rw [Bool.eq_iff_iff]
      simp [isAccepted, Reply.isTaken, or_assoc]
    have hsettles : (Reply.status code).Settles ↔ (Reply.status code).isTaken = true ∨ ¬isTemporary code = true := by
      simp [Reply.Settles, Reply.isTaken, isTemporary]
    simp only [verdict, htaken, hsettles, Reply.result]
    by_cases h : (Reply.status code).isTaken = true
    · simp only [h, if_true, true_or]
    · by_cases htemporary : isTemporary code = true
      · simp only [h, htemporary, if_true, not_true_eq_false, or_false, if_false, Bool.false_eq_true, Reply.error]
      · simp only [h, htemporary, not_false_eq_true, or_true, if_true, if_false, Bool.false_eq_true, Reply.error]

/-! ## Attempts -/

/-- What an attempt meets, counted from 0; a client that cannot send meets nothing. -/
def met (client : Client) (replies : Nat → Reply) (i : Nat) : Reply := if client.canSend then replies i else .lost

/-- What an attempt sends. -/
def sent (client : Client) (request : PostRequest) : List PostRequest := if client.canSend then [request] else []

section Attempts

variable (request : PostRequest) {replies : Nat → Reply} {n : Nat}

theorem postFrom_of_settles (h : (client.met replies n).Settles) (more : Nat) :
    client.postFrom request replies more (n + 1) =
      { result := (client.met replies n).result, requests := client.sent request } := by
  have hverdict : verdict (if client.canSend then replies n else .lost) = .over (client.met replies n).result := by
    rw [← met, verdict_eq, if_pos h]
  rw [postFrom.eq_def]
  simp only [Nat.add_sub_cancel, hverdict, sent]

theorem postFrom_zero (h : ¬(client.met replies n).Settles) :
    client.postFrom request replies 0 (n + 1) =
      { result := (client.met replies n).result, requests := client.sent request } := by
  have hverdict : verdict (if client.canSend then replies n else .lost) = .again (client.met replies n).error := by
    rw [← met, verdict_eq, if_neg h]
  rw [postFrom.eq_def, Reply.result, if_neg (mt Reply.settles_of_isTaken h)]
  simp only [Nat.add_sub_cancel, hverdict, sent]

theorem postFrom_succ (h : ¬(client.met replies n).Settles) (more : Nat) :
    client.postFrom request replies (more + 1) (n + 1) =
      { client.postFrom request replies more (n + 2) with
        requests := client.sent request ++ (client.postFrom request replies more (n + 2)).requests
        waits := client.retry.backoff (n + 1).toUInt32 :: (client.postFrom request replies more (n + 2)).waits } := by
  have hverdict : verdict (if client.canSend then replies n else .lost) = .again (client.met replies n).error := by
    rw [← met, verdict_eq, if_neg h]
  rw [postFrom.eq_def]
  simp only [Nat.add_sub_cancel, hverdict, sent]

/-- **One request is repeated until a reply settles it or the attempts are used up**: the last reply is the result, and
between two attempts stands the wait of the first one of them. -/
theorem exists_postFrom_eq (client : Client) (replies : Nat → Reply) : ∀ more n : Nat, ∃ k ≤ more,
    (∀ j < k, ¬(client.met replies (n + j)).Settles) ∧ ((client.met replies (n + k)).Settles ∨ k = more) ∧
      client.postFrom request replies more (n + 1) =
        { result := (client.met replies (n + k)).result
          requests := (List.replicate (k + 1) (client.sent request)).flatten
          waits := (List.range k).map fun j => client.retry.backoff (n + j + 1).toUInt32 } := by
  intro more
  induction more with
  | zero =>
    intro n
    refine ⟨0, Nat.le_refl 0, nofun, .inr rfl, ?_⟩
    have hone : (List.replicate 1 (client.sent request)).flatten = client.sent request := List.append_nil _
    rw [Nat.zero_add, hone]
    by_cases h : (client.met replies n).Settles
    · exact postFrom_of_settles request h 0
    · exact postFrom_zero request h
  | succ more ih =>
    intro n
    by_cases h : (client.met replies n).Settles
    · have hone : (List.replicate 1 (client.sent request)).flatten = client.sent request := List.append_nil _
      refine ⟨0, Nat.zero_le _, nofun, .inl h, ?_⟩
      rw [Nat.zero_add, hone]
      exact postFrom_of_settles request h (more + 1)
    · obtain ⟨k, hk, hbefore, hlast, hlater⟩ := ih (n + 1)
      have hshift : ∀ j, n + 1 + j = n + (j + 1) := fun j => by omega
      simp only [hshift] at hbefore hlast hlater
      refine ⟨k + 1, Nat.succ_le_succ hk, ?_, hlast.imp_right (congrArg (· + 1)), ?_⟩
      · intro j hj
        cases j with
        | zero => exact h
        | succ j => exact hbefore j (Nat.lt_of_succ_lt_succ hj)
      · rw [postFrom_succ request h, hlater, List.range_succ_eq_map, List.map_cons, List.map_map]
        rfl

variable (replies)

/-- A client that cannot send anything sends nothing. -/
theorem postFrom_of_not_canSend (h : client.canSend = false) : ∀ more attempt : Nat,
    (client.postFrom request replies more attempt).requests = [] ∧
      (client.postFrom request replies more attempt).result.isOk = false
  | 0, attempt => by simp [postFrom, h, verdict, Except.isOk, Except.toBool]
  | more + 1, attempt => by
    have ih := postFrom_of_not_canSend h more (attempt + 1)
    simpa [postFrom, h, verdict] using ih

/-- What is posted before the reply that counts has not arrived. -/
theorem exists_replicate (hsend : client.canSend = true) (more n : Nat) : ∃ k,
    (client.postFrom request replies more (n + 1)).requests = List.replicate (k + 1) request ∧
      (∀ j < k, (replies (n + j)).isTaken = false) ∧
      (replies (n + k)).isTaken = (client.postFrom request replies more (n + 1)).result.isOk := by
  obtain ⟨k, -, hbefore, -, heq⟩ := exists_postFrom_eq request client replies more n
  have hmet : client.met replies = replies := funext fun i => if_pos hsend
  have hsent : client.sent request = [request] := if_pos hsend
  rw [hmet] at hbefore heq
  rw [hsent, List.flatten_replicate_singleton] at heq
  rw [heq]
  refine ⟨k, rfl, fun j hj => ?_, (Reply.isOk_result _).symm⟩
  exact Bool.eq_false_iff.2 fun htaken => hbefore j hj (Reply.settles_of_isTaken htaken)

end Attempts

/-! ## Deliveries -/

variable (contentType key : String) (batch : List UInt8) (replies : Nat → Reply)

theorem eq_of_mem_post {r : PostRequest} (h : r ∈ (client.post contentType key batch replies).requests) :
    r = client.request contentType key batch := by
  unfold post at h
  cases hsend : client.canSend with
  | false =>
    rw [(postFrom_of_not_canSend _ replies hsend _ _).1] at h
    cases h
  | true =>
    obtain ⟨k, hrequests, -⟩ := exists_replicate (client.request contentType key batch) replies hsend
      (client.attempts - 1) 0
    rw [hrequests] at h
    exact List.eq_of_mem_replicate h

/-- **A batch is taken once if its delivery ends well**, and never otherwise. -/
theorem taken_post (client : Client) :
    (((client.post contentType key batch replies).exchanges replies).filter fun e => e.2.isTaken).map Prod.fst =
      if (client.post contentType key batch replies).result.isOk then [client.request contentType key batch]
      else [] := by
  unfold Delivery.exchanges post
  cases hsend : client.canSend with
  | false =>
    obtain ⟨hrequests, hresult⟩ := postFrom_of_not_canSend (client.request contentType key batch) replies hsend
      (client.attempts - 1) 1
    rw [hrequests, hresult]
    rfl
  | true =>
    obtain ⟨k, hrequests, hrefused, hlast⟩ := exists_replicate (client.request contentType key batch) replies hsend
      (client.attempts - 1) 0
    rw [Nat.zero_add] at hlast
    have hnone : ((List.replicate k (client.request contentType key batch)).zipIdx.map
        fun p => (p.1, replies p.2)).filter (fun e => e.2.isTaken) = [] := by
      refine List.filter_eq_nil_iff.2 fun e he => ?_
      obtain ⟨⟨r, j⟩, hmem, rfl⟩ := List.mem_map.1 he
      have hj : j < k := by simpa using (List.mem_zipIdx hmem).2.1
      have hnot := hrefused j hj
      rw [Nat.zero_add] at hnot
      simp [hnot]
    rw [hrequests, ← hlast, List.replicate_succ', List.zipIdx_append, List.map_append, List.filter_append, hnone]
    cases htaken : (replies k).isTaken <;> simp [htaken]

/-- **The attempts of a delivery.**  There are as many as it takes for a reply to settle the batch, but no more than the
policy allows, and at least one.  Each of them sends the same request, if the client can send any; what the last one
meets is the result; and the wait behind an attempt that is not the last one is that of the policy for its number. -/
theorem post_attempts (client : Client) : ∃ k,
    IsLeast {k | 1 ≤ k ∧ ((client.met replies (k - 1)).Settles ∨ k = max 1 client.retry.maxAttempts.toNat)} k ∧
    (client.post contentType key batch replies).requests =
      (if client.canSend then List.replicate k (client.request contentType key batch) else []) ∧
    (client.post contentType key batch replies).result = (client.met replies (k - 1)).result ∧
    (client.post contentType key batch replies).waits.length = k - 1 ∧
    ∀ i : UInt32, 1 ≤ i.toNat → i.toNat < k →
      (client.post contentType key batch replies).waits[i.toNat - 1]? = some (client.retry.backoff i) := by
  obtain ⟨k, hk, hbefore, hlast, heq⟩ :=
    exists_postFrom_eq (client.request contentType key batch) client replies (client.attempts - 1) 0
  simp only [Nat.zero_add] at hbefore hlast heq
  have hattempts : client.attempts = max 1 client.retry.maxAttempts.toNat := rfl
  have hpos : 1 ≤ client.attempts := Nat.le_max_left _ _
  rw [post, heq, ← hattempts]
  refine ⟨k + 1, ⟨⟨Nat.le_add_left 1 k, ?_⟩, ?_⟩, ?_, rfl, ?_, ?_⟩
  · rw [Nat.add_sub_cancel]
    exact hlast.imp_right fun h => by omega
  · -- an earlier attempt is neither settled nor the last one
    rintro j ⟨hj, hsettles | rfl⟩
    · exact Nat.le_of_not_lt fun hlt => hbefore (j - 1) (by omega) hsettles
    · omega
  · cases hsend : client.canSend with
    | true =>
      have hsent : client.sent (client.request contentType key batch) = [client.request contentType key batch] :=
        if_pos hsend
      rw [hsent, List.flatten_replicate_singleton]
      rfl
    | false =>
      have hsent : client.sent (client.request contentType key batch) = [] := if_neg (by simp [hsend])
      rw [hsent, List.flatten_replicate_nil]
      rfl
  · rw [List.length_map, List.length_range, Nat.add_sub_cancel]
  · intro i hi hlt
    have hnumber : (i.toNat - 1 + 1).toUInt32 = i := by
      rw [Nat.sub_add_cancel hi]
      exact UInt32.ofNat_toNat
    rw [List.getElem?_map, List.getElem?_range (by omega), Option.map_some, hnumber]

end Client
end ObjectRelay
