import ConversationMemory.Handle.Build
import ConversationMemory.Proofs.Handle.Course

/-!
# When the status is written

* `normalize_eq_self_iff`: what one slash less does a second time.
* `Handle.Series`: operations of one handle, one after another, with the calls of each and the base
  address after it.
* `Series.turn`: an operation writes the status exactly when its address differs from the cached
  one, from which one more slash is taken for this.
* **`writes_of_series`**: that is the address of the operation before, unless this one has two
  slashes at its end.
-/

namespace ConversationMemory

/-! ## Slashes at the end -/

/-- The address ends with two slashes or more. -/
def EndsTwice (address : String) : Prop := ['/', '/'] <:+ address.toList

theorem normalize_concat {address : String} {rest : List Char} (h : address.toList = rest ++ ['/']) :
    (normalize address).toList = rest := by
  rw [normalize, h, if_pos (by simp), List.dropLast_concat, String.toList_ofList]

theorem normalize_eq_self_iff {address : String} :
    normalize address = address ↔ ¬ ['/'] <:+ address.toList := by
  constructor
  · rintro same ⟨rest, h⟩
    have shorter := normalize_concat h.symm
    rw [same, ← h] at shorter
    have := congrArg List.length shorter
    simp at this
  · intro h
    rw [normalize, if_neg]
    intro hlast
    obtain ⟨rest, hrest⟩ := List.getLast?_eq_some_iff.1 hlast
    exact h ⟨rest, hrest.symm⟩

theorem normalize_normalize_iff {address : String} :
    normalize (normalize address) = normalize address ↔ ¬ EndsTwice address := by
  rw [normalize_eq_self_iff, not_iff_not]
  by_cases hslash : ['/'] <:+ address.toList
  · obtain ⟨rest, hrest⟩ := hslash
    rw [normalize_concat hrest.symm, EndsTwice, ← hrest]
    constructor
    · rintro ⟨front, rfl⟩
      exact ⟨front, by simp⟩
    · rintro ⟨front, h⟩
      have unslashed : front ++ ['/'] ++ ['/'] = rest ++ ['/'] := by simpa using h
      exact ⟨front, List.append_cancel_right unslashed⟩
  · rw [normalize_eq_self_iff.2 hslash]
    constructor
    · exact fun h => (hslash h).elim
    · rintro ⟨front, h⟩
      exact (hslash ⟨front ++ ['/'], by simpa using h⟩).elim

namespace Handle

variable {σ : Type}

/-! ## Series of operations -/

/-- Operations of one handle that nobody interrupts, one after another. Each one finds the world in
whatever state it is by then; between them the handle may be closed. -/
inductive Series (world : World σ) (emitter : Emitter) (handle : Handle) :
    HandleState → List (List Call × String) → Prop
  | done {state} : Series world emitter handle state []
  | call {state x now scope context operation r t turns}
    (nonEmpty : operation.IsNonEmpty)
    (reached : (handle.perform (world.watched.collaborators emitter) context operation).Reaches scope
      { world := (x, []), handle := state, now } r t)
    (own : ¬ Interrupted r) (later : Series world emitter handle t.handle turns) :
    Series world emitter handle state ((t.world.2, t.handle.baseUrl) :: turns)
  | close {state turns} (later : Series world emitter handle { state with transport := none } turns) :
    Series world emitter handle state turns

variable {world : World σ} {emitter : Emitter} {handle : Handle} {state : HandleState}

theorem Course.writes {operation : Operation} {calls : List Call} {r : Except MemoryError Answer}
    {base address : String} (h : handle.Course operation state calls r base)
    (found : resolvedAddresses calls = [address]) :
    base = normalize address ∧
      statusWrites calls = if normalize state.baseUrl = normalize address then 0 else 1 := by
  have reconciling {made : List Call} {next : String}
      (h : handle.ReconcileCalls operation.name state.baseUrl made (.ok next))
      (found : resolvedAddresses made = [address]) : next = normalize address ∧
        statusWrites made = if normalize state.baseUrl = normalize address then 0 else 1 := by
    cases h with
    | kept record resolved same =>
      obtain rfl : resolved = address := List.head_eq_of_cons_eq found
      rw [if_pos same]
      exact ⟨rfl, rfl⟩
    | drifted record resolved answer differs =>
      obtain rfl : resolved = address := List.head_eq_of_cons_eq found
      rw [if_neg differs]
      exact ⟨rfl, rfl⟩
  cases h with
  | unreconciled reconciled => cases reconciled <;> cases found
  | unsent reconciled refused => exact reconciling reconciled found
  | @sent made next request reconciled prepared answer =>
    have sends : resolvedAddresses [.send request (some answer)] = [] := rfl
    rw [resolvedAddresses_append, sends, List.append_nil] at found
    obtain ⟨hbase, hwrites⟩ := reconciling reconciled found
    refine ⟨hbase, ?_⟩
    rw [statusWrites_append, hwrites]
    rfl

variable {first previous address base : String} {addresses : List String}
  {turns : List (List Call × String)} {calls : List Call}

/-- An operation of a series writes the status exactly when its address differs from what is cached
of the address before. -/
theorem Series.turn (series : handle.Series world emitter state turns)
    (cached : state.baseUrl = normalize first)
    (found : turns.map (fun turn => resolvedAddresses turn.1) = addresses.map fun a => [a]) {k : Nat}
    (hprevious : (first :: addresses)[k]? = some previous) (haddress : addresses[k]? = some address)
    (hturn : turns[k]? = some (calls, base)) :
    base = normalize address ∧
      statusWrites calls = if normalize (normalize previous) = normalize address then 0 else 1 := by
  induction series generalizing first addresses k with
  | done => simp at hturn
  | close later ih => exact ih cached found hprevious haddress hturn
  | @call state x now scope context operation r t turns nonEmpty reached own later ih =>
    cases addresses with
    | nil => simp at haddress
    | cons next rest =>
      simp only [List.map_cons, List.cons.injEq] at found
      obtain interrupted | ⟨last, y, performed, hworld⟩ := reaches_perform nonEmpty reached
      · exact (own interrupted).elim
      obtain ⟨made, hmade, course⟩ := performed.course
      rw [afterEvent_watched] at hmade
      have hcalls : t.world.2 = made := by
        rw [hworld, afterEvent_watched, hmade]
        rfl
      rw [hcalls] at found hturn
      obtain ⟨hbase, hwrites⟩ := course.writes found.1
      cases k with
      | zero =>
        simp only [List.getElem?_cons_zero, Option.some.injEq, Prod.mk.injEq] at *
        obtain ⟨rfl, rfl⟩ := hturn
        subst hprevious haddress
        rw [← cached]
        exact ⟨hbase, hwrites⟩
      | succ k =>
        rw [List.getElem?_cons_succ] at hprevious haddress hturn
        exact ih hbase found.2 hprevious haddress hturn

theorem baseUrl_of_ofRecord {spec : HandleSpec} {record : MemoryRecord}
    (built : spec.ofRecord record = .ok (handle, state))
    (start : record.status.lastResolvedAddress = some first) : state.baseUrl = normalize first := by
  rw [HandleSpec.ofRecord, start] at built
  split at built
  · cases built
  · rename_i address given
    have same : first = address := (Option.filter_eq_some_iff.1 given).1 |> Option.some.inj
    split at built
    · cases built
    · cases built
      rw [same]

/-- **When the status is written.** A handle is built from a record with a first address, and its
operations resolve an address each. After an operation its address is cached in normal form, whatever
was answered to a status write or by the service. The status is written once if this differs from
the address before, of which the normal form is taken twice, and otherwise not at all. So an
operation goes by the change of the normal form exactly unless the address before ends with two
slashes and the new one has its normal form, or that with one more slash less. -/
theorem writes_of_series {spec : HandleSpec} {record : MemoryRecord}
    (built : spec.ofRecord record = .ok (handle, state))
    (start : record.status.lastResolvedAddress = some first)
    (series : handle.Series world emitter state turns)
    (found : turns.map (fun turn => resolvedAddresses turn.1) = addresses.map fun a => [a]) {k : Nat}
    (hprevious : (first :: addresses)[k]? = some previous) (haddress : addresses[k]? = some address)
    (hturn : turns[k]? = some (calls, base)) :
    base = normalize address ∧
      statusWrites calls = (if normalize (normalize previous) = normalize address then 0 else 1) ∧
      (statusWrites calls = (if normalize previous = normalize address then 0 else 1) ↔
        ¬ (EndsTwice previous ∧ (normalize address = normalize previous ∨
          normalize address = normalize (normalize previous)))) := by
  have cached : state.baseUrl = normalize first := baseUrl_of_ofRecord built start
  obtain ⟨hbase, hwrites⟩ := series.turn cached found hprevious haddress hturn
  refine ⟨hbase, hwrites, ?_⟩
  rw [hwrites]
  by_cases twice : EndsTwice previous
  · have differs : normalize (normalize previous) ≠ normalize previous :=
      fun same => normalize_normalize_iff.1 same twice
    by_cases one : normalize previous = normalize address
    · rw [← one]
      simp [twice, differs]
    · by_cases two : normalize (normalize previous) = normalize address
      · simp [twice, one, two]
      · simp [twice, one, two, Ne.symm one, Ne.symm two]
  · rw [normalize_normalize_iff.2 twice]
    simp [twice]

/-! ## An example -/

/-- A handle whose resolver answers what the circumstances are, and whose service knows of no
messages. -/
def told : Surroundings Unit String Unit where
  handle _ := Surroundings.pair.handle false
  resolve _ address _ _ _ := .ok address
  delay _ := some 0
  network := fun _ network => .afterWait 0 (.ok ⟨200, .whole [123, 125]⟩) network network

/-- The record of the handle, with an address that ends with two slashes. -/
def slashRecord : MemoryRecord :=
  (MemoryRecord.create "notes" "team" (.literal "http://[::1]//")).withResolvedAddress
    "http://[::1]//"

/-- The handle looks at its history when it has some address. -/
def lookAt (address : String) (state : HandleState) :
    Except Abort (Except MemoryError Answer) × Running (Scene String Unit × List Call) :=
  (told.handle ()).perform ((told.world Surroundings.kept ()).watched.collaborators .recording) {}
    .get {}
    { world :=
        ({ store := .memory { records := [(("team", "notes"), slashRecord)] }
           circumstances := address
           network := () }, [])
      handle := state
      now := 0 }

/-- What it does at one address after the other. -/
def looks : List String → HandleState → List (List Call × String)
  | [], _ => []
  | address :: rest, state =>
    ((lookAt address state).2.world.2, (lookAt address state).2.handle.baseUrl) ::
      looks rest (lookAt address state).2.handle

/-- Whether an operation has gone well. -/
def goesWell : Except Abort (Except MemoryError Answer) → Bool
  | .ok (.ok _) => true
  | _ => false

/-- Whether all of them go well. -/
def allGoWell : List String → HandleState → Bool
  | [], _ => true
  | address :: rest, state =>
    goesWell (lookAt address state).1 && allGoWell rest (lookAt address state).2.handle

theorem series_looks {state : HandleState} (h : allGoWell addresses state = true) :
    (told.handle ()).Series (told.world Surroundings.kept ()) .recording state
      (looks addresses state) := by
  induction addresses generalizing state with
  | nil => exact .done
  | cons address rest ih =>
    rw [allGoWell, Bool.and_eq_true] at h
    obtain ⟨well, later⟩ := h
    have nonEmpty : Operation.get.IsNonEmpty := trivial
    cases houtcome : (lookAt address state).1 with
    | error abort =>
      rw [houtcome] at well
      cases well
    | ok r =>
      rw [houtcome] at well
      cases r with
      | error e => cases well
      | ok a =>
        have reached : lookAt address state = (.ok (.ok a), (lookAt address state).2) :=
          Prod.ext houtcome rfl
        refine .call nonEmpty reached ?_ (ih later)
        rintro ⟨_, _, _, h⟩
        cases h

/-- The address of the record stays, and its status is written; then the address changes, and it is
not. -/
theorem writes_of_series_slashes :
    ∃ (spec : HandleSpec) (state : HandleState) (turns : List (List Call × String)),
      spec.ofRecord slashRecord = .ok (told.handle (), state) ∧
      (told.handle ()).Series (told.world Surroundings.kept ()) .recording state turns ∧
      turns.map (fun turn => resolvedAddresses turn.1) = [["http://[::1]//"], ["http://[::1]/"]] ∧
      turns.map (fun turn => statusWrites turn.1) = [1, 0] := by
  have built : HandleSpec.ofRecord
      { name := "notes", namespaceName := "team", sessionId := some "a" } slashRecord =
      .ok (told.handle (), ⟨"http://[::1]/", none⟩) := rfl
  have series := series_looks
    (by decide +kernel : allGoWell ["http://[::1]//", "http://[::1]/"] ⟨"http://[::1]/", none⟩ = true)
  have found : (looks ["http://[::1]//", "http://[::1]/"] ⟨"http://[::1]/", none⟩).map
      (fun turn => resolvedAddresses turn.1) =
      ["http://[::1]//", "http://[::1]/"].map fun a => [a] := by decide +kernel
  have first := (writes_of_series built rfl series found (k := 0) rfl rfl rfl).2.1
  have second := (writes_of_series built rfl series found (k := 1) rfl rfl rfl).2.1
  refine ⟨_, _, _, built, series, found, ?_⟩
  rw [looks, looks, looks, List.map_cons, List.map_cons, first, second]
  decide +kernel

end Handle

end ConversationMemory
