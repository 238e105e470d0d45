import ConversationMemory.Proofs.Execution.Built
import ConversationMemory.Proofs.Handle.Progress
import ConversationMemory.Proofs.Handle.Scene

/-!
# What is left of an operation

* `Scene.Past`: what some calls may have made of a scene; `Surroundings.keeps_past`: they make no
  more of it, whether they are heard or not.
* `Surroundings.lookUp`: the base address that a handle finds in a scene.
* `Surroundings.Outcome`: what an operation comes to and sends, by that address and the network.
* **`Surroundings.outcome_of_performed`**: nothing else counts.
* `Surroundings.storeAfter`, `store_of_performed`: the store that is left behind when nothing stops an
  operation.
* `lookUp_alike`: statuses and versions do not count for the address either.
-/

namespace ConversationMemory

/-! ## What the calls make of a scene -/

/-- The records whose statuses are written back, in order. -/
def writtenBack (calls : List Call) : List MemoryRecord :=
  calls.filterMap fun call => match call with
    | .updateStatus record _ => some record
    | _ => none

theorem length_writtenBack (calls : List Call) : (writtenBack calls).length = statusWrites calls := by
  induction calls with
  | nil => rfl
  | cons call calls ih =>
    rw [writtenBack, statusWrites] at *
    cases call <;> simp [Call.isStatusWrite, ih, List.countP_cons]

variable {ι ρ ν : Type}

/-- What calls have made of a scene: each of the status writes has got so far in the store. What is
read first is what has been there. -/
structure Scene.Past (before : Scene ρ ν) (calls : List Call) (after : Scene ρ ν) : Prop where
  circumstances : after.circumstances = before.circumstances
  sent : after.sent = before.sent ++ requests calls
  store : ∃ landed : List (WriteStage × MemoryRecord), landed.map Prod.snd = writtenBack calls ∧
    after.store = landed.foldl (fun store write => store.updateStatusUntil write.1 write.2) before.store
  first : ∀ {name namespaceName answer rest}, calls = .get name namespaceName (some answer) :: rest →
    answer = (before.store.get name namespaceName).1

theorem Scene.Past.refl (scene : Scene ρ ν) : scene.Past [] scene :=
  ⟨rfl, (List.append_nil _).symm, ⟨[], rfl, rfl⟩, by rintro _ _ _ _ ⟨⟩⟩

section

variable {before after : Scene ρ ν} {calls : List Call} (h : before.Past calls after)

include h

theorem Scene.Past.store_eq (none : statusWrites calls = 0) : after.store = before.store := by
  obtain ⟨landed, writes, store⟩ := h.store
  have nothing : writtenBack calls = [] := by
    rw [← List.length_eq_zero_iff, length_writtenBack, none]
  rw [nothing, List.map_eq_nil_iff] at writes
  rw [store, writes, List.foldl_nil]

theorem Scene.Past.first_concat {call : Call}
    (reads : ∀ {name namespaceName answer}, call = .get name namespaceName (some answer) →
      answer = (after.store.get name namespaceName).1)
    {name namespaceName : String} {answer : Except StoreError MemoryRecord} {rest : List Call}
    (begins : calls ++ [call] = .get name namespaceName (some answer) :: rest) :
    answer = (before.store.get name namespaceName).1 := by
  cases calls with
  | nil =>
    have here : after.store = before.store := h.store_eq rfl
    rw [← here]
    exact reads (List.head_eq_of_cons_eq begins)
  | cons head tail => exact h.first (congrArg (· :: tail) (List.head_eq_of_cons_eq begins))

theorem Scene.Past.aside {call : Call} (noWrite : writtenBack [call] = [])
    (noRequest : requests [call] = [])
    (reads : ∀ {name namespaceName answer}, call = .get name namespaceName (some answer) →
      answer = (after.store.get name namespaceName).1) :
    before.Past (calls ++ [call]) after := by
  obtain ⟨landed, writes, store⟩ := h.store
  refine ⟨h.circumstances, ?_, ⟨landed, ?_, store⟩, h.first_concat reads⟩
  · rw [requests_append, noRequest, List.append_nil, h.sent]
  · rw [writtenBack, List.filterMap_append, ← writtenBack, ← writtenBack, noWrite, List.append_nil]
    exact writes

theorem Scene.Past.written (stage : WriteStage) (record : MemoryRecord)
    (answer : Option (Except StoreError Unit)) :
    before.Past (calls ++ [.updateStatus record answer]) (after.written stage record) := by
  obtain ⟨landed, writes, store⟩ := h.store
  have records : writtenBack (calls ++ [.updateStatus record answer]) =
      writtenBack calls ++ [record] := List.filterMap_append
  refine ⟨h.circumstances, ?_, ⟨landed ++ [(stage, record)], ?_, ?_⟩,
    h.first_concat (by rintro _ _ _ ⟨⟩)⟩
  · have noRequest : requests [.updateStatus record answer] = [] := rfl
    rw [requests_append, noRequest, List.append_nil]
    exact h.sent
  · rw [records, List.map_append, writes]
    rfl
  · rw [List.foldl_append, ← store]
    rfl

theorem Scene.Past.sending (network : ν) (request : Request)
    (answer : Option (Except TransportError Response)) :
    before.Past (calls ++ [.send request answer])
      { after with network, sent := after.sent ++ [request] } := by
  obtain ⟨landed, writes, store⟩ := h.store
  refine ⟨h.circumstances, ?_, ⟨landed, ?_, store⟩, h.first_concat (by rintro _ _ _ ⟨⟩)⟩
  · rw [requests_append, ← List.append_assoc, ← h.sent]
    rfl
  · have records : writtenBack (calls ++ [.send request answer]) = writtenBack calls := by
      rw [writtenBack, List.filterMap_append]
      exact List.append_nil _
    rw [records]
    exact writes

end

/-! ## How calls end -/

theorem Reply.ends_after {σ α : Type} {delay : Option Nat} {answer : α} {world : σ}
    {answered : α → σ → Prop} {left : Abort → σ → Prop} (heard : answered answer world)
    (unheard : ∀ reason, reason ≠ .crashed → left reason world) :
    (Reply.after delay answer world).Ends answered left := by
  cases delay with
  | none => exact unheard
  | some milliseconds =>
    refine ⟨heard, fun reason caller => unheard reason ?_⟩
    rintro rfl
    exact caller

theorem Reply.ends_within {σ τ α : Type} (reply : Reply τ α) {put : τ → σ}
    {answered : α → σ → Prop} {left : Abort → σ → Prop} (heard : ∀ a n, answered a (put n))
    (unheard : ∀ reason n, (reason = .crashed → ∃ m, reply = .crash m) → left reason (put n)) :
    (reply.within put).Ends answered left := by
  cases reply with
  | atOnce answer world => exact heard _ _
  | afterWait milliseconds answer world left =>
    refine ⟨heard _ _, fun reason caller => unheard reason _ ?_⟩
    rintro rfl
    exact caller.elim
  | never left => exact fun reason whole => unheard reason _ fun crashed => (whole crashed).elim
  | crash world => exact unheard _ _ fun _ => ⟨_, rfl⟩

/-- Whatever becomes of a status write, it gets so far in the store; only a store with a record of the
last version breaks down. -/
theorem Scene.ends_writeBack {answered : Except StoreError Unit → Scene ρ ν → Prop}
    {left : Abort → Scene ρ ν → Prop} (scene : Scene ρ ν) (fate : Fate) (record : MemoryRecord)
    (heard : ∀ a stage, answered a (scene.written stage record))
    (unheard : ∀ reason stage, (reason = .crashed → ¬ scene.store.VersionsBelow) →
      left reason (scene.written stage record)) :
    (scene.writeBack fate record).Ends answered left := by
  have caller {reason : Abort} (h : reason.ByCaller) : reason = .crashed → ¬ scene.store.VersionsBelow := by
    rintro rfl
    exact h.elim
  simp only [writeBack]
  split
  · rename_i crashed
    refine unheard _ _ fun _ below => ?_
    cases lands : fate.lands with
    | false => simp [lands] at crashed
    | true =>
      rw [lands, if_pos rfl] at crashed
      exact Store.updateStatus_ends below record crashed
  · exact ⟨heard _ _, fun _ h => unheard _ _ (caller h)⟩
  · exact ⟨heard _ _, fun _ h => unheard _ _ (caller h)⟩
  · exact ⟨heard _ _, fun _ h => unheard _ _ (caller h)⟩

namespace Surroundings

variable (env : Surroundings ι ρ ν) (fates : Nat → Fate) (i : ι)

/-- The network never breaks down. -/
def IsSound : Prop := ∀ request n m, env.network request n ≠ .crash m

/-- The calls since some moment may have made this of the scene then. -/
def Since (before : Scene ρ ν) (calls : List Call) (w : Scene ρ ν × List Call) : Prop :=
  ∃ made, w.2 = calls ++ made ∧ before.Past made w.1

/-- This may be left behind by them; when there is room in the store, only a second status write
breaks down. -/
def Left (before : Scene ρ ν) (calls : List Call) (reason : Abort) (w : Scene ρ ν × List Call) :
    Prop :=
  ∃ made, w.2 = calls ++ made ∧ before.Past made w.1 ∧
    (reason = .crashed → env.IsSound → before.store.VersionsBelow → 1 < statusWrites made)

variable {env fates i} in
theorem keeps_noted {α : Type} {before : Scene ρ ν} {made calls : List Call}
    {reply : Reply (Scene ρ ν) α} {call : Option α → Call}
    (ends : reply.Ends (fun a after => before.Past (made ++ [call (some a)]) after)
      fun reason after => before.Past (made ++ [call none]) after ∧ (reason = .crashed →
        env.IsSound → before.store.VersionsBelow → 1 < statusWrites (made ++ [call none]))) :
    (reply.noted call (calls ++ made)).Keeps (Since before calls) (env.Left before calls) := by
  refine (ends.noted call (calls ++ made)).imp (fun a w h => ?_) fun _ w h => ?_
  · exact ⟨_, by rw [h.2, List.append_assoc], h.1⟩
  · exact ⟨_, by rw [h.2, List.append_assoc], h.1⟩

/-- **The calls of an operation make no more of a scene than this**, whether they are heard or not. -/
theorem keeps_past (before : Scene ρ ν) (calls : List Call) :
    (env.world fates i).watched.Keeps (Since before calls) (env.Left before calls) where
  get name namespaceName w h := by
    obtain ⟨made, hmade, past⟩ := h
    simp only [World.watched, hmade]
    refine keeps_noted (Reply.ends_after (past.aside rfl rfl ?_) fun _ whole =>
      ⟨past.aside rfl rfl ?_, fun crashed => (whole crashed).elim⟩)
    · rintro _ _ _ ⟨⟩
      rfl
    · rintro _ _ _ ⟨⟩
  resolve spec namespaceName w h := by
    obtain ⟨made, hmade, past⟩ := h
    simp only [World.watched, hmade]
    exact keeps_noted (Reply.ends_after (past.aside rfl rfl (by rintro _ _ _ ⟨⟩)) fun _ whole =>
      ⟨past.aside rfl rfl (by rintro _ _ _ ⟨⟩), fun crashed => (whole crashed).elim⟩)
  updateStatus record w h := by
    obtain ⟨made, hmade, past⟩ := h
    simp only [World.watched, hmade]
    refine keeps_noted (Scene.ends_writeBack _ _ _ (fun _ stage => past.written stage record _)
      fun reason stage full => ⟨past.written stage record _, fun crashed _ below => ?_⟩)
    have once : statusWrites [.updateStatus record none] = 1 := rfl
    have again : statusWrites made ≠ 0 := by
      intro first
      rw [past.store_eq first] at full
      exact full crashed below
    rw [statusWrites_append, once]
    omega
  send request w h := by
    obtain ⟨made, hmade, past⟩ := h
    simp only [World.watched, hmade]
    refine keeps_noted (Reply.ends_within _ (fun _ n => past.sending n request _)
      fun reason n breaks => ⟨past.sending n request _, fun crashed sound _ => ?_⟩)
    obtain ⟨m, hm⟩ := breaks crashed
    exact (sound request _ m hm).elim
  log entry w h := h

/-! ## What an operation depends on -/

/-- The base address that a handle finds in a scene. -/
def lookUp (operation : String) (scene : Scene ρ ν) : Except MemoryError String :=
  let handle := env.handle i
  match (scene.store.get handle.name handle.namespaceName).1 with
  | .error e => .error (.configuration operation handle.target e)
  | .ok record =>
    match env.resolve i scene.circumstances (fun key => scene.store.configValue key)
        record.spec.address handle.namespaceName with
    | .error e => .error (.resolution operation handle.target e)
    | .ok resolved => .ok (normalize resolved)

/-- What an operation comes to and what it sends, by the base address that has been found and the
network. -/
inductive Outcome (operation : Operation) (state : HandleState) (n : ν) :
    Except MemoryError String → Except MemoryError Answer → List Request → Prop
  | unreconciled (e : MemoryError) : Outcome operation state n (.error e) (.error e) []
  | unsent {next e} (refused : (env.handle i).requestFor state operation next = .error e) :
    Outcome operation state n (.ok next)
      (.error (.transport operation.name (env.handle i).target e)) []
  | sent {next request answer m}
    (prepared : (env.handle i).requestFor state operation next = .ok request)
    (answered : (env.network request n).Answers answer m) :
    Outcome operation state n (.ok next) ((env.handle i).resultOf operation answer) [request]

variable {env fates i}

theorem Outcome.unique {operation : Operation} {state : HandleState} {n : ν}
    {looked : Except MemoryError String} {r q : Except MemoryError Answer}
    {sent others : List Request} (h : env.Outcome i operation state n looked r sent)
    (k : env.Outcome i operation state n looked q others) : r = q ∧ sent = others := by
  cases h with
  | unreconciled e =>
    cases k
    exact ⟨rfl, rfl⟩
  | unsent refused =>
    cases k with
    | unsent refused' =>
      cases refused.symm.trans refused'
      exact ⟨rfl, rfl⟩
    | sent prepared answered => cases refused.symm.trans prepared
  | sent prepared answered =>
    cases k with
    | unsent refused => cases refused.symm.trans prepared
    | sent prepared' answered' =>
      cases prepared.symm.trans prepared'
      obtain ⟨rfl, -⟩ := answered.unique answered'
      exact ⟨rfl, rfl⟩

theorem Outcome.of_requestFor {operation : Operation} {state other : HandleState} {n : ν}
    {looked : Except MemoryError String} {r : Except MemoryError Answer} {sent : List Request}
    (h : env.Outcome i operation state n looked r sent)
    (same : ∀ next, (env.handle i).requestFor state operation next =
      (env.handle i).requestFor other operation next) :
    env.Outcome i operation other n looked r sent := by
  cases h with
  | unreconciled e => exact .unreconciled e
  | unsent refused => exact .unsent ((same _).symm.trans refused)
  | sent prepared answered => exact .sent ((same _).symm.trans prepared) answered

theorem of_answers_after {σ α : Type} {delay : Option Nat} {answer a : α} {world y : σ}
    (h : (Reply.after delay answer world).Answers a y) : a = answer ∧ y = world := by
  cases delay with
  | none => exact h.elim
  | some milliseconds => exact ⟨h.1.symm, h.2.symm⟩

theorem scene_of_get {name namespaceName : String} {read : Except StoreError MemoryRecord}
    {x y : Scene ρ ν × List Call}
    (h : ((env.world fates i).watched.get name namespaceName x).Answers read y) :
    read = (x.1.store.get name namespaceName).1 ∧ y.1 = x.1 :=
  of_answers_after (Reply.answers_noted.1 h).1

theorem scene_of_resolve {spec : AddressSpec} {namespaceName : String}
    {found : Except ResolveError String} {x y : Scene ρ ν × List Call}
    (h : ((env.world fates i).watched.resolve spec namespaceName x).Answers found y) :
    found = env.resolve i x.1.circumstances (fun key => x.1.store.configValue key) spec
      namespaceName ∧ y.1 = x.1 :=
  of_answers_after (Reply.answers_noted.1 h).1

theorem scene_of_found {name namespaceName : String} {record : MemoryRecord}
    {found : Except ResolveError String} {x y z : Scene ρ ν × List Call}
    (reads : ((env.world fates i).watched.get name namespaceName x).Answers (.ok record) y)
    (resolves : ((env.world fates i).watched.resolve record.spec.address namespaceName y).Answers
      found z) :
    .ok record = (x.1.store.get name namespaceName).1 ∧
      found = env.resolve i x.1.circumstances (fun key => x.1.store.configValue key)
        record.spec.address namespaceName ∧ z.1 = x.1 := by
  obtain ⟨hread, hy⟩ := scene_of_get reads
  obtain ⟨hfound, hz⟩ := scene_of_resolve resolves
  rw [hy] at hfound hz
  exact ⟨hread, hfound, hz⟩

theorem scene_of_updateStatus {record : MemoryRecord} {answer : Except StoreError Unit}
    {x y : Scene ρ ν × List Call}
    (h : ((env.world fates i).watched.updateStatus record x).Answers answer y) :
    y.1 = x.1.written (fates x.1.writes).heard record := by
  have replied := (Reply.answers_noted.1 h).1
  simp only [world, Scene.writeBack] at replied
  split at replied
  · exact replied.elim
  · exact replied.2.symm
  · exact replied.2.symm
  · exact replied.2.symm

/-- **A reconciliation finds the base address of the scene**, and leaves the network as it is. -/
theorem lookUp_of_reconciled {operation cached : String} {x y : Scene ρ ν × List Call}
    {r : Except MemoryError String}
    (h : Handle.Reconciled (env.world fates i).watched (env.handle i) operation cached x r y) :
    r = env.lookUp i operation x.1 ∧ y.1.network = x.1.network := by
  unfold lookUp
  cases h with
  | unread read =>
    obtain ⟨hread, hy⟩ := scene_of_get read
    simp only [← hread, hy, and_self]
  | unresolved read found =>
    obtain ⟨hread, hfound, hz⟩ := scene_of_found read found
    simp only [← hread, ← hfound, hz, and_self]
  | kept read found same =>
    obtain ⟨hread, hfound, hz⟩ := scene_of_found read found
    simp only [← hread, ← hfound, hz, and_self]
  | @drifted record resolved answer y z u read found differs written =>
    obtain ⟨hread, hfound, hz⟩ := scene_of_found read found
    have wrote : u.1.network = z.1.network := by
      rw [scene_of_updateStatus written]
      rfl
    have network : u.1.network = x.1.network := wrote.trans (congrArg Scene.network hz)
    have kept : (Handle.afterWrite (env.world fates i).watched (env.handle i) resolved u
        answer).1.network = x.1.network := by cases answer <;> exact network
    simp only [← hread, ← hfound, kept, and_self]

/-- **The address in the scene and the network decide about an operation**, what is cached does
not. -/
theorem outcome_of_performed {operation : Operation} {state : HandleState}
    {x y : Scene ρ ν × List Call} {r : Except MemoryError Answer} {base : String}
    (h : Handle.Performed (env.world fates i).watched (env.handle i) operation state x r y base) :
    ∃ made, y.2 = x.2 ++ made ∧ env.Outcome i operation state x.1.network
      (env.lookUp i operation.name x.1) r (requests made) := by
  cases h with
  | unreconciled reconciled =>
    obtain ⟨made, hmade, calls⟩ := reconciled.calls
    refine ⟨made, hmade, ?_⟩
    rw [← (lookUp_of_reconciled reconciled).1, calls.requests_eq]
    exact .unreconciled _
  | unsent reconciled refused =>
    obtain ⟨made, hmade, calls⟩ := reconciled.calls
    refine ⟨made, hmade, ?_⟩
    rw [← (lookUp_of_reconciled reconciled).1, calls.requests_eq]
    exact .unsent refused
  | @sent next entry request answer z y reconciled prepared answered =>
    obtain ⟨made, hmade, calls⟩ := reconciled.calls
    obtain ⟨found, network⟩ := lookUp_of_reconciled reconciled
    obtain ⟨replied, hy⟩ := Reply.answers_noted.1 answered
    obtain ⟨m, answers, -⟩ := Reply.answers_within.1 replied
    refine ⟨made ++ [.send request (some answer)], ?_, ?_⟩
    · rw [hy, ← List.append_assoc, ← hmade]
      rfl
    · rw [← found, requests_append, calls.requests_eq, ← network]
      exact .sent prepared answers

theorem store_of_heard (scene : Scene ρ ν) (fate : Fate) (record : MemoryRecord) :
    (scene.written fate.heard record).store =
      if fate.lands then (scene.store.updateStatus record).2.1 else scene.store := by
  simp only [Scene.written, Fate.heard]
  cases fate.lands with
  | false => exact Store.updateStatusUntil_unstarted _ _
  | true => exact Store.updateStatusUntil_whole _ _

/-- The store that an operation leaves behind when nothing stops it: an address that differs from the
cached one is written back, if the write gets to the store. -/
def storeAfter (env : Surroundings ι ρ ν) (i : ι) (cached : String) (lands : Bool)
    (scene : Scene ρ ν) : Store :=
  let handle := env.handle i
  match (scene.store.get handle.name handle.namespaceName).1 with
  | .error _ => scene.store
  | .ok record =>
    match env.resolve i scene.circumstances (fun key => scene.store.configValue key)
        record.spec.address handle.namespaceName with
    | .error _ => scene.store
    | .ok resolved =>
      if normalize cached ≠ normalize resolved ∧ lands then
        (scene.store.updateStatus (Handle.drifted record resolved)).2.1
      else scene.store

theorem store_of_reconciled {operation cached : String} {x y : Scene ρ ν × List Call}
    {r : Except MemoryError String}
    (h : Handle.Reconciled (env.world fates i).watched (env.handle i) operation cached x r y) :
    y.1.store = env.storeAfter i cached (fates x.1.writes).lands x.1 := by
  unfold storeAfter
  cases h with
  | unread read =>
    obtain ⟨hread, hy⟩ := scene_of_get read
    simp only [← hread, hy]
  | unresolved read found =>
    obtain ⟨hread, hfound, hz⟩ := scene_of_found read found
    simp only [← hread, ← hfound, hz]
  | kept read found same =>
    obtain ⟨hread, hfound, hz⟩ := scene_of_found read found
    simp only [← hread, ← hfound, hz, same, ne_eq, not_true_eq_false, false_and, if_false]
  | @drifted record resolved answer y z u read found differs written =>
    obtain ⟨hread, hfound, hz⟩ := scene_of_found read found
    have store : (Handle.afterWrite (env.world fates i).watched (env.handle i) resolved u
        answer).1.store = u.1.store := by cases answer <;> rfl
    have logged : ((env.world fates i).watched.log
        ((env.handle i).driftEntry (normalize cached) (normalize resolved)) z).1 = x.1 := hz
    rw [store, scene_of_updateStatus written, logged]
    simp only [← hread, ← hfound, differs, ne_eq, not_false_eq_true, true_and]
    exact store_of_heard x.1 _ _

theorem store_of_performed {operation : Operation} {state : HandleState}
    {x y : Scene ρ ν × List Call} {r : Except MemoryError Answer} {base : String}
    (h : Handle.Performed (env.world fates i).watched (env.handle i) operation state x r y base) :
    y.1.store = env.storeAfter i state.baseUrl (fates x.1.writes).lands x.1 := by
  cases h with
  | unreconciled reconciled => exact store_of_reconciled reconciled
  | unsent reconciled refused => exact store_of_reconciled reconciled
  | sent reconciled prepared answered =>
    obtain ⟨n, -, sent⟩ := Reply.answers_within.1 (Reply.answers_noted.1 answered).1
    rw [← sent]
    exact store_of_reconciled reconciled

theorem lookUp_alike {operation : String} {a b : Scene ρ ν} (stores : a.store.Alike b.store)
    (circumstances : a.circumstances = b.circumstances) :
    env.lookUp i operation a = env.lookUp i operation b := by
  have values : (fun key => a.store.configValue key) = fun key => b.store.configValue key := by
    funext key
    exact Store.configValue_alike stores key
  have reads := Store.get_alike stores (env.handle i).name (env.handle i).namespaceName
  simp only [lookUp, ← values, ← circumstances]
  generalize (a.store.get (env.handle i).name (env.handle i).namespaceName).1 = read at reads ⊢
  generalize (b.store.get (env.handle i).name (env.handle i).namespaceName).1 = read' at reads ⊢
  cases read with
  | error e =>
    cases read' with
    | error e' => rw [Except.error.inj reads]
    | ok record => cases reads
  | ok record =>
    cases read' with
    | error e => cases reads
    | ok record' =>
      have same : record.lasting = record'.lasting := Except.ok.inj reads
      have spec : record.spec = record'.spec := congrArg (fun r => r.spec) same
      simp only [spec]

end Surroundings

end ConversationMemory
