import ConversationMemory.Proofs.Handle.Scene
import ConversationMemory.Proofs.Http

/-!
# The course of an operation

* `Handle.Course`: the calls of an operation in order, each at most once, with its result and the
  base address that it leaves behind.
* `Course.status`, `Course.target`: what a refusal of the service makes of the result, and where a
  request goes to.
* `Performed.unique`: what is cached does not count for the result, nor for what is sent.
* **`perform_course`**: every operation that nobody interrupts takes such a course.
-/

namespace ConversationMemory.Handle

variable {σ ν : Type} {world : World σ} {network : Network ν} {emitter : Emitter} {handle : Handle}
  {operation : Operation} {scope : Scope}

/-- The calls of an operation in order, its result, and the base address that it leaves behind:
there is nothing to send to, nothing that can be sent, or an answer to the one request. -/
inductive Course (handle : Handle) (operation : Operation) (state : HandleState) :
    List Call → Except MemoryError Answer → String → Prop
  | unreconciled {made e}
    (reconciled : handle.ReconcileCalls operation.name state.baseUrl made (.error e)) :
    Course handle operation state made (.error e) state.baseUrl
  | unsent {made next e}
    (reconciled : handle.ReconcileCalls operation.name state.baseUrl made (.ok next))
    (refused : handle.requestFor state operation next = .error e) :
    Course handle operation state made (.error (.transport operation.name handle.target e)) next
  | sent {made next request}
    (reconciled : handle.ReconcileCalls operation.name state.baseUrl made (.ok next))
    (prepared : handle.requestFor state operation next = .ok request)
    (answer : Except TransportError Response) :
    Course handle operation state (made ++ [.send request (some answer)])
      (handle.resultOf operation answer) next

/-! ## Reading a course -/

theorem ReconcileCalls.requests_eq {name cached : String} {made : List Call}
    {r : Except MemoryError String} (h : handle.ReconcileCalls name cached made r) :
    requests made = [] := by
  cases h <;> rfl

theorem ReconcileCalls.resolved {name cached next : String} {made : List Call}
    (h : handle.ReconcileCalls name cached made (.ok next)) :
    ∃ resolved, resolvedAddresses made = [resolved] ∧ next = normalize resolved := by
  cases h with
  | kept record resolved same => exact ⟨resolved, rfl, rfl⟩
  | drifted record resolved answer differs => exact ⟨resolved, rfl, rfl⟩

variable {state : HandleState} {calls : List Call} {r : Except MemoryError Answer} {base : String}

/-- An answer of the service with a status that is no success makes the operation fail with exactly
this status. -/
theorem Course.status (h : handle.Course operation state calls r base) {request : Request}
    {response : Response} (answered : .send request (some (.ok response)) ∈ calls)
    (refused : ¬ (200 ≤ response.status ∧ response.status ≤ 299)) :
    r = .error (.backend operation.name handle.target response.status) := by
  cases h with
  | unreconciled reconciled => cases reconciled <;> simp at answered
  | unsent reconciled unprepared => cases reconciled <;> simp at answered
  | sent reconciled prepared answer =>
    have hanswer : answer = .ok response := by
      cases reconciled <;> simp at answered <;> exact answered.2.symm
    have hfail : response.isSuccess = false := by
      simp only [Response.isSuccess, Bool.and_eq_false_iff, decide_eq_false_iff_not]
      omega
    simp [hanswer, resultOf, received, hfail]

theorem requestFor_url {request : Request}
    (h : handle.requestFor state operation base = .ok request) :
    ∃ url, Url.parse (handle.messagesUrl base) = .ok url ∧ request.url = url.withoutUser := by
  obtain ⟨-, -, url, parsed, hurl⟩ := Request.of_prepare h
  exact ⟨url, parsed, hurl⟩

/-- **A request goes below the address that was resolved in the same operation.** -/
theorem Course.target (h : handle.Course operation state calls r base) {request : Request}
    (sent : request ∈ requests calls) :
    requests calls = [request] ∧ ∃ resolved url, resolvedAddresses calls = [resolved] ∧
      Url.parse (normalize resolved ++ handle.settings.messagesPath ++ "/" ++
        String.ofList (Percent.encode Percent.component handle.sessionId.toList)) = .ok url ∧
      request.url = url.withoutUser := by
  cases h with
  | unreconciled reconciled =>
    rw [reconciled.requests_eq] at sent
    cases sent
  | unsent reconciled refused =>
    rw [reconciled.requests_eq] at sent
    cases sent
  | @sent made next other reconciled prepared answer =>
    have hrequests : requests (made ++ [.send other (some answer)]) = [other] := by
      rw [requests_append, reconciled.requests_eq]
      rfl
    rw [hrequests, List.mem_singleton] at sent
    subst sent
    obtain ⟨resolved, hresolved, rfl⟩ := reconciled.resolved
    obtain ⟨url, parsed, hurl⟩ := requestFor_url prepared
    refine ⟨hrequests, resolved, url, ?_, parsed, hurl⟩
    rw [resolvedAddresses_append, hresolved]
    rfl

/-! ## From worlds to courses -/

theorem Performed.course {x y : σ × List Call}
    (h : Performed world.watched handle operation state x r y base) :
    ∃ calls, y.2 = x.2 ++ calls ∧ handle.Course operation state calls r base := by
  cases h with
  | unreconciled reconciled =>
    obtain ⟨made, hmade, calls⟩ := reconciled.calls
    exact ⟨made, hmade, .unreconciled calls⟩
  | unsent reconciled refused =>
    obtain ⟨made, hmade, calls⟩ := reconciled.calls
    exact ⟨made, hmade, .unsent calls refused⟩
  | @sent next entry request answer z y reconciled prepared answered =>
    obtain ⟨made, hmade, calls⟩ := reconciled.calls
    obtain ⟨-, hsent⟩ := Reply.answers_noted.1 answered
    refine ⟨made ++ [.send request (some answer)], ?_, .sent calls prepared answer⟩
    rw [hsent, ← List.append_assoc, ← hmade]
    rfl

theorem afterEvent_watched (event : OperationEvent) (x : σ × List Call) :
    (afterEvent world.watched emitter event x).2 = x.2 := by
  cases emitter <;> rfl

/-- **What is cached does not count for the result, nor for what is sent.** -/
theorem Performed.unique {other : String} {x y z : (σ × ν) × List Call}
    {q : Except MemoryError Answer} {last : String}
    (h : Performed (world.beside network).watched handle operation state x r y base)
    (k : Performed (world.beside network).watched handle operation { state with baseUrl := other } x
      q z last) :
    q = r ∧ ∃ made calls, y.2 = x.2 ++ made ∧ z.2 = x.2 ++ calls ∧
      requests calls = requests made := by
  cases h with
  | unreconciled reconciled =>
    obtain ⟨made, hmade, reconciling⟩ := reconciled.calls
    cases k with
    | unreconciled again =>
      obtain ⟨calls, hcalls, reconciling'⟩ := again.calls
      cases again.unique reconciled
      refine ⟨rfl, made, calls, hmade, hcalls, ?_⟩
      rw [reconciling.requests_eq, reconciling'.requests_eq]
    | unsent again refused => cases again.unique reconciled
    | sent again prepared answered => cases again.unique reconciled
  | unsent reconciled refused =>
    obtain ⟨made, hmade, reconciling⟩ := reconciled.calls
    cases k with
    | unreconciled again => cases again.unique reconciled
    | unsent again refused' =>
      obtain ⟨calls, hcalls, reconciling'⟩ := again.calls
      cases again.unique reconciled
      cases refused.symm.trans refused'
      refine ⟨rfl, made, calls, hmade, hcalls, ?_⟩
      rw [reconciling.requests_eq, reconciling'.requests_eq]
    | sent again prepared answered =>
      cases again.unique reconciled
      cases refused.symm.trans prepared
  | @sent next entry request answer v y reconciled prepared answered =>
    obtain ⟨made, hmade, reconciling⟩ := reconciled.calls
    cases k with
    | unreconciled again => cases again.unique reconciled
    | unsent again refused =>
      cases again.unique reconciled
      cases prepared.symm.trans refused
    | @sent _ entry' request' answer' w z again prepared' answered' =>
      obtain ⟨calls, hcalls, reconciling'⟩ := again.calls
      cases again.unique reconciled
      cases prepared.symm.trans prepared'
      obtain ⟨replied, hy⟩ := Reply.answers_noted.1 answered
      obtain ⟨replied', hz⟩ := Reply.answers_noted.1 answered'
      obtain ⟨n, one, -⟩ := Reply.answers_within.1 replied
      obtain ⟨n', two, -⟩ := Reply.answers_within.1 replied'
      -- the network is where it was when the operation began, in both
      have hv : ((world.beside network).watched.log entry v).1.2 = x.1.2 := reconciled.network
      have hw : ((world.beside network).watched.log entry' w).1.2 = x.1.2 := again.network
      rw [hv] at one
      rw [hw] at two
      obtain ⟨rfl, -⟩ := one.unique two
      refine ⟨rfl, made ++ [.send request (some answer)], calls ++ [.send request (some answer)],
        ?_, ?_, ?_⟩
      · rw [hy, ← List.append_assoc, ← hmade]
        rfl
      · rw [hz, ← List.append_assoc, ← hcalls]
        rfl
      · rw [requests_append, requests_append, reconciling.requests_eq, reconciling'.requests_eq]

/-- **No operation falls back on what it has cached.** Whatever the world answers, an operation that
nothing stops comes to a result of its own; whenever it does, it has taken a course of calls, in
which a request goes below the address resolved in the same operation and a refusal of the service
is the result; and another cached address changes neither the result nor the request. -/
theorem perform_course {fresh written : σ × ν → Prop}
    (serves : (world.beside network).Serves fresh written) (nonEmpty : operation.IsNonEmpty) :
    (∀ (scope : Scope) (s : Running ((σ × ν) × List Call)), fresh s.world.1 →
      (handle.innerScope scope s.now).IsQuiet → ∃ r t, ¬ Interrupted r ∧
        (handle.perform ((world.beside network).watched.collaborators emitter) scope.context
          operation).Reaches scope s r t) ∧
    (∀ (scope : Scope) (context : OperationContext) (s t : Running ((σ × ν) × List Call)) r,
      (handle.perform ((world.beside network).watched.collaborators emitter) context
        operation).Reaches scope s r t → ¬ Interrupted r →
      ∃ calls, t.world.2 = s.world.2 ++ calls ∧
        handle.Course operation s.handle calls r t.handle.baseUrl ∧
        (∀ request response, .send request (some (.ok response)) ∈ calls →
          ¬ (200 ≤ response.status ∧ response.status ≤ 299) →
          r = .error (.backend operation.name handle.target response.status)) ∧
        (∀ request ∈ requests calls, requests calls = [request] ∧
          ∃ resolved url, resolvedAddresses calls = [resolved] ∧
            Url.parse (normalize resolved ++ handle.settings.messagesPath ++ "/" ++
              String.ofList (Percent.encode Percent.component handle.sessionId.toList)) = .ok url ∧
            request.url = url.withoutUser) ∧
        ∀ (other : String) (quit : Scope) (narrow : OperationContext) u q,
          (handle.perform ((world.beside network).watched.collaborators emitter) narrow
            operation).Reaches quit { s with handle := { s.handle with baseUrl := other } } q u →
          ¬ Interrupted q →
          q = r ∧ ∃ again, u.world.2 = s.world.2 ++ again ∧ requests again = requests calls) := by
  refine ⟨?_, ?_⟩
  · intro scope s hs quiet
    obtain ⟨r, t, reached, own⟩ := settles_perform serves.watched nonEmpty hs quiet
    exact ⟨r, t, own, reached⟩
  · intro scope context s t r reached own
    obtain interrupted | ⟨last, y, performed, hworld⟩ := reaches_perform nonEmpty reached
    · exact (own interrupted).elim
    obtain ⟨calls, hcalls, course⟩ := performed.course
    rw [afterEvent_watched] at hcalls
    have ht : t.world.2 = s.world.2 ++ calls := by
      rw [hworld, afterEvent_watched, hcalls]
    refine ⟨calls, ht, course, fun _ _ => course.status, fun _ => course.target, ?_⟩
    intro other quit narrow u q reached' own'
    obtain interrupted | ⟨last', z, performed', hworld'⟩ := reaches_perform nonEmpty reached'
    · exact (own' interrupted).elim
    obtain ⟨rfl, made, again, hy, hz, same⟩ := performed.unique performed'
    rw [afterEvent_watched] at hy hz
    have hmade : made = calls := by
      rw [hcalls] at hy
      exact (List.append_cancel_left hy).symm
    refine ⟨rfl, again, ?_, by rw [same, hmade]⟩
    rw [hworld', afterEvent_watched, hz]

/-- A run of a handle over a store in memory begins here. -/
def pairStart : Running ((Scene Unit Unit × Unit) × List Call) where
  world := ((Surroundings.pairStage.scene, ()), [])
  handle := Surroundings.pairStage.states true
  now := 0

open Surroundings in
/-- A handle over a store in memory takes such a course. -/
theorem perform_course_pair :
    ∃ r t calls,
      ((pair.handle true).perform
        (((pair.world kept true).beside pair.network).watched.collaborators .recording) {}
        .get).Reaches {} pairStart r t ∧
      t.world.2 = calls ∧
      (pair.handle true).Course .get pairStart.handle calls r t.handle.baseUrl := by
  have serves : ((pair.world kept true).beside pair.network).Serves
      (fun x => x.1.store.VersionsBelow) fun _ => True :=
    pair.serves kept true (fun _ => rfl) fun _ n => ⟨_, n, rfl, rfl⟩
  have nonEmpty : Operation.get.IsNonEmpty := trivial
  have settles : ∃ r t, ¬ Interrupted r ∧ ((pair.handle true).perform
      (((pair.world kept true).beside pair.network).watched.collaborators .recording) {}
      .get).Reaches {} pairStart r t :=
    (perform_course serves nonEmpty).1 {} pairStart (Store.versionsBelow_of_hasRoom rfl) ⟨rfl, rfl⟩
  obtain ⟨r, t, own, reached⟩ := settles
  obtain ⟨calls, hcalls, taken, -⟩ :=
    (perform_course serves nonEmpty).2 _ _ _ _ _ reached own
  exact ⟨r, t, calls, reached, hcalls, taken⟩

end ConversationMemory.Handle
