import DungeonPortfolio.ServerResponses

/-!
# Every step is a chain of acts

The handlers of `run()`, then the labels of the kernel and of the workers, then
the rule by which every invariant of the server is proved: it is enough that
each act keeps it.
-/

namespace DungeonPortfolio.ServerSteps

open DungeonPortfolio.Text DungeonPortfolio.World DungeonPortfolio.Dispatcher
open DungeonPortfolio.Server DungeonPortfolio.ServerActs DungeonPortfolio.ServerResponses
open Library.Execution Library.Stream

set_option autoImplicit false

def setCompleted (system : System) (completed : List Cqe) : System := { system with completed }

theorem get_sqe_set_completed (system : System) (completed : List Cqe) :
    (setCompleted system completed).getSqe = setCompleted system.getSqe completed := by
  by_cases room : system.prepared.length < system.config.ringEntries
  · have roomy : system.getSqe = system := if_pos room
    have after : (setCompleted system completed).getSqe = setCompleted system completed :=
      if_pos room
    rw [roomy, after]
  · have full : system.getSqe = system.submit := if_neg room
    have after : (setCompleted system completed).getSqe =
      (setCompleted system completed).submit := if_neg room
    rw [full, after]
    rfl

theorem push_line_set_completed (system : System) (completed : List Cqe) (ref : SessionRef)
    (session : Session) (line : ServerLine) :
    pushLine (setCompleted system completed) ref session line =
      setCompleted (pushLine system ref session line) completed := by
  unfold pushLine
  split
  · rfl
  · rfl

theorem queue_response_set_completed (system : System) (completed : List Cqe)
    (ref : SessionRef) (line : ServerLine) :
    (setCompleted system completed).queueResponse ref line =
      setCompleted (system.queueResponse ref line) completed := by
  cases alive : system.live ref with
  | none =>
      have stale : (setCompleted system completed).live ref = none := alive
      simp only [System.queueResponse, alive, stale]
      rfl
  | some session =>
      have found : (setCompleted system completed).live ref = some session := alive
      rw [queue_response_live line alive, queue_response_live line found,
        ← push_line_set_completed]
      congr 1
      unfold roomFor
      split
      · rfl
      · exact get_sqe_set_completed system completed

theorem deliver_set_completed (system : System) (completed : List Cqe)
    (events : List WorldEvent) :
    (setCompleted system completed).deliverWorldEvents events =
      setCompleted (system.deliverWorldEvents events) completed := by
  induction events generalizing system with
  | nil => rfl
  | cons event rest ih =>
      calc (setCompleted system completed).deliverWorldEvents (event :: rest)
          = (setCompleted (system.queueResponse event.receiver (.world event.line))
              completed).deliverWorldEvents rest := by
            rw [← queue_response_set_completed]
            rfl
        _ = setCompleted (system.deliverWorldEvents (event :: rest)) completed := ih _

theorem leave_world_set_completed (system : System) (completed : List Cqe)
    (order : SectorWorld.CallOrder) (ref : SessionRef) :
    (setCompleted system completed).leaveWorld order ref =
      setCompleted (system.leaveWorld order ref) completed := by
  have departed : (setCompleted system completed).leaveWorld order ref = saveSnapshot
      ((setCompleted (system.setWorld (system.world.call order (.leave ref)).1)
        completed).deliverWorldEvents (system.world.call order (.leave ref)).2) ref
          (system.world.leave order ref PlayerSnapshot.empty).2.2 := rfl
  rw [departed, deliver_set_completed, leave_world_eq]
  unfold saveSnapshot
  split
  · rfl
  · rfl

theorem set_session_comm (system : System) {first second : Int} (different : first ≠ second)
    (one other : Option Session) :
    (system.setSession second other).setSession first one =
      (system.setSession first one).setSession second other := by
  have swapped := Function.update_comm different one other system.sessions
  simp only [System.setSession, swapped]

theorem queue_response_set_other (system : System) (ref : SessionRef) (line : ServerLine)
    {fd : Int} (session : Option Session) (different : ref.fd ≠ fd) :
    (system.setSession fd session).queueResponse ref line =
      (system.queueResponse ref line).setSession fd session := by
  have same : (system.setSession fd session).live ref = system.live ref := by
    simp only [System.live, System.setSession, Function.update_of_ne different]
  cases alive : system.live ref with
  | none =>
      simp only [System.queueResponse, same, alive]
      rfl
  | some own =>
      rw [queue_response_live line alive, queue_response_live line (same.trans alive)]
      have room : roomFor (system.setSession fd session) own =
          (roomFor system own).setSession fd session := by
        unfold roomFor
        split
        · rfl
        · exact get_sqe_set_session system fd session
      rw [room]
      unfold pushLine
      simp only [set_session_comm _ different]
      split
      · rfl
      · rfl

theorem deliver_set_other {system : System} {events : List WorldEvent} {fd : Int}
    (session : Option Session) (different : ∀ event ∈ events, event.receiver.fd ≠ fd) :
    (system.setSession fd session).deliverWorldEvents events =
      (system.deliverWorldEvents events).setSession fd session := by
  induction events generalizing system with
  | nil => rfl
  | cons event rest ih =>
      have first := queue_response_set_other system event.receiver (.world event.line) session
        (different event List.mem_cons_self)
      calc (system.setSession fd session).deliverWorldEvents (event :: rest)
          = ((system.queueResponse event.receiver (.world event.line)).setSession fd
              session).deliverWorldEvents rest := by
            rw [← first]
            rfl
        _ = (system.deliverWorldEvents (event :: rest)).setSession fd session :=
            ih fun other member => different other (List.mem_cons_of_mem _ member)

theorem leave_world_set_other {system : System} {ref : SessionRef} (coherent : Coherent system)
    (order : SectorWorld.CallOrder) (session : Option Session)
    (alive : generationAt system ref.fd = some ref.generation) :
    (system.setSession ref.fd session).leaveWorld order ref =
      (system.leaveWorld order ref).setSession ref.fd session := by
  have departed : (system.setSession ref.fd session).leaveWorld order ref = saveSnapshot
      (((system.setWorld (system.world.call order (.leave ref)).1).setSession ref.fd
        session).deliverWorldEvents (system.world.call order (.leave ref)).2) ref
          (system.world.leave order ref PlayerSnapshot.empty).2.2 := rfl
  rw [departed, deliver_set_other session (leave_receivers_elsewhere coherent order alive),
    leave_world_eq]
  unfold saveSnapshot
  split
  · rfl
  · rfl

theorem close_session_set_completed {system : System} {ref : SessionRef} (completed : List Cqe)
    (order : SectorWorld.CallOrder) (cause : CloseCause)
    (alive : generationAt system ref.fd = some ref.generation) :
    (setCompleted system completed).closeSession order cause ref.fd =
      setCompleted (system.closeSession order cause ref.fd) completed := by
  have same : generationAt (setCompleted system completed) ref.fd = some ref.generation := alive
  rw [close_session_live order cause alive, close_session_live order cause same,
    leave_world_set_completed]
  rfl

/-- What a session holds makes no difference to closing it. -/
theorem close_session_set_session {system : System} {ref : SessionRef} (coherent : Coherent system)
    (order : SectorWorld.CallOrder) (cause : CloseCause) (session : Session)
    (same : session.generation = ref.generation)
    (alive : generationAt system ref.fd = some ref.generation) :
    (system.setSession ref.fd (some session)).closeSession order cause ref.fd =
      system.closeSession order cause ref.fd := by
  have still : generationAt (system.setSession ref.fd (some session)) ref.fd =
      some ref.generation := by
    rw [generation_at_replace alive same]
    exact alive
  rw [close_session_live order cause alive, close_session_live order cause still,
    leave_world_set_other coherent order (some session) alive]
  simp only [erase, System.setSession, Function.update_idem]

/-- A completion that closes its session: the session goes first, then the
completion is as stale as any other. -/
theorem close_and_dismiss_acts {system : System} {cqe : Cqe} {rest : List Cqe}
    {ref : SessionRef} (coherent : Coherent system) (order : SectorWorld.CallOrder)
    (cause : CloseCause) (other : cause ≠ .flushed) (position : system.position = .draining)
    (completed : system.completed = cqe :: rest)
    (token : cqe.operation.token = .recv ref ∨ ∃ payload, cqe.operation.token = .send ref payload)
    (alive : generationAt system ref.fd = some ref.generation) :
    Acts system ((setCompleted system rest).closeSession order cause ref.fd) := by
  have closed := close_session_acts coherent order cause other (Or.inl position) alive
  rw [close_session_set_completed rest order cause alive]
  apply closed.tail
  have left := leave_world_left coherent order alive
  rw [close_session_live order cause alive]
  have gone : (erase (system.leaveWorld order ref) ref cause).live ref = none := by
    simp only [System.live, erase, Function.update_self, Option.filter_none]
  exact Act.dismissed (erase (system.leaveWorld order ref) ref cause) cqe rest ref
    (left.position.trans position) (left.completed.trans completed) token gone

/-- The state in which a session that goes on posts its next send. -/
def roomForNext (system : System) (outbox : List Bytes) : System :=
  if outbox.isEmpty then system else system.getSqe

theorem room_for_next_reclaimed (system : System) (outbox : List Bytes) :
    roomForNext system outbox = system ∨ roomForNext system outbox = system.submit := by
  unfold roomForNext System.getSqe
  split
  · exact Or.inl rfl
  · split
    · exact Or.inl rfl
    · exact Or.inr rfl

theorem room_for_next_undisturbed (system : System) (outbox : List Bytes) :
    Undisturbed system (roomForNext system outbox) := by
  unfold roomForNext
  split
  · exact Undisturbed.refl system
  · exact get_sqe_undisturbed system

theorem room_for_next_live (system : System) (outbox : List Bytes) (ref : SessionRef) :
    (roomForNext system outbox).live ref = system.live ref := by
  unfold roomForNext
  split
  · rfl
  · exact get_sqe_live system ref

theorem progress_eq {system : System} {ref : SessionRef} {session : Session} (rest : List Cqe)
    (payload : Bytes) (count : Nat) (alive : system.live ref = some session) :
    (((setCompleted system rest).setSession ref.fd (some { session with
        outbox := advance session.outbox count, writeInFlight := false })).record
          (.sent ref (payload.take count))).postSend ref.fd =
      progress (setCompleted (roomForNext system (advance session.outbox count)) rest) ref session
        payload count := by
  have same := (live_eq_some.mp alive).2
  have named : (⟨ref.fd, session.generation⟩ : SessionRef) = ref := by
    rw [same]
  have found : ((((setCompleted system rest).setSession ref.fd (some { session with
      outbox := advance session.outbox count, writeInFlight := false })).record
        (.sent ref (payload.take count))).sessions ref.fd) = some { session with
          outbox := advance session.outbox count, writeInFlight := false } :=
    Function.update_self _ _ _
  unfold progress roomForNext
  cases queued : advance session.outbox count with
  | nil =>
      rw [queued] at found
      rw [post_send_flushed found rfl]
      rfl
  | cons front more =>
      rw [queued] at found
      rw [post_send_front found rfl rfl, get_sqe_record, get_sqe_set_session,
        get_sqe_set_completed, set_session_again, named]
      rfl

theorem handle_send_live {system : System} {ref : SessionRef} {session : Session}
    (order : SectorWorld.CallOrder) (payload : Bytes) (cqe : Cqe) (rest : List Cqe)
    (alive : system.live ref = some session) (queued : session.outbox ≠ [])
    (succeeded : 0 < cqe.result) :
    (setCompleted system rest).handleSend order ref payload cqe =
      (progress (setCompleted (roomForNext system (advance session.outbox cqe.result.toNat)) rest)
        ref session payload cqe.result.toNat).maybeCloseAfterFlush order ref.fd := by
  have found : (setCompleted system rest).live ref = some session := alive
  rw [← progress_eq rest payload cqe.result.toNat alive]
  have positive : ¬cqe.result ≤ 0 := by omega
  rcases List.exists_cons_of_ne_nil queued with ⟨front, more, split⟩
  simp only [System.handleSend, found, split, if_neg positive, advance]

theorem handle_send_closes {system : System} {ref : SessionRef} {session : Session}
    (coherent : Coherent system) (order : SectorWorld.CallOrder) (payload : Bytes) (cqe : Cqe)
    (rest : List Cqe) (alive : system.live ref = some session)
    (failed : session.outbox = [] ∨ cqe.result ≤ 0) :
    (setCompleted system rest).handleSend order ref payload cqe =
      (setCompleted system rest).closeSession order .sendFailure ref.fd := by
  have found : (setCompleted system rest).live ref = some session := alive
  have same := (live_eq_some.mp alive).2
  have key := generation_of_live alive
  let idle : Session := { session with writeInFlight := false }
  have idleSame : idle.generation = ref.generation := same
  have still : generationAt (system.setSession ref.fd (some idle)) ref.fd =
      some ref.generation := by
    rw [generation_at_replace key idleSame]
    exact key
  have closed : ((setCompleted system rest).setSession ref.fd (some idle)).closeSession order
      .sendFailure ref.fd = (setCompleted system rest).closeSession order .sendFailure ref.fd := by
    calc ((setCompleted system rest).setSession ref.fd (some idle)).closeSession order
          .sendFailure ref.fd
        = setCompleted ((system.setSession ref.fd (some idle)).closeSession order .sendFailure
            ref.fd) rest := close_session_set_completed rest order .sendFailure still
      _ = setCompleted (system.closeSession order .sendFailure ref.fd) rest := by
          rw [close_session_set_session coherent order .sendFailure idle same key]
      _ = (setCompleted system rest).closeSession order .sendFailure ref.fd :=
          (close_session_set_completed rest order .sendFailure key).symm
  unfold System.handleSend
  rw [found]
  cases queued : session.outbox with
  | nil =>
      simp only [queued]
      rw [← closed]
      simp only [idle, queued]
  | cons front more =>
      have negative : cqe.result ≤ 0 := by
        rcases failed with empty | negative
        · rw [queued] at empty
          cases empty
        · exact negative
      simp only [queued, if_pos negative]
      rw [← closed]
      simp only [idle, queued]

theorem handle_cqe_turn {system : System} {cqe : Cqe} {rest : List Cqe}
    (coherent : Coherent system) (order : SectorWorld.CallOrder)
    (position : system.position = .draining) (completed : system.completed = cqe :: rest) :
    Turn system ((setCompleted system rest).handleCqe order cqe) := by
  unfold System.handleCqe
  cases token : cqe.operation.token with
  | accept =>
      simp only [System.handleAccept]
      split
      · rename_i succeeded
        let ref : SessionRef := ⟨cqe.result, counterValue system.nextSessionGeneration⟩
        have waiting : ref.fd ∈ arrivals system := by
          rw [arrivals, completed]
          exact List.mem_filterMap.mpr ⟨cqe, List.mem_cons_self, if_pos ⟨token, succeeded⟩⟩
        have vacant : system.sessions ref.fd = none :=
          Option.map_eq_none_iff.mp (coherent.arriving ref.fd waiting).2
        have arrived := Act.arrived system cqe rest ref position completed token succeeded rfl vacant
        have opened := coherent_act coherent arrived
        have hello : DirectLine .hello := trivial
        have alive := opened.busy ref rfl
        have greeted := queue_response_acts hello alive
        have fresh : ((setCompleted system rest).sessions cqe.result).getD
            ⟨ref.generation, [], [], false, false, 0⟩ = ⟨ref.generation, [], [], false, false, 0⟩ := by
          rw [show (setCompleted system rest).sessions cqe.result = none from vacant,
            Option.getD_none]
        have acts := (Relation.ReflTransGen.single arrived).trans greeted
        rw [← fresh] at acts
        exact Turn.plain acts
      · rename_i failed
        have negative : cqe.result < 0 := by omega
        exact Turn.plain (Relation.ReflTransGen.single
          (Act.refused system cqe rest position completed token negative))
  | recv ref =>
      cases alive : system.live ref with
      | none =>
          have stale : (setCompleted system rest).live ref = none := alive
          simp only [System.handleRecv, stale]
          exact Turn.plain (Relation.ReflTransGen.single
            (Act.dismissed system cqe rest ref position completed (Or.inl token) alive))
      | some session =>
          have found : (setCompleted system rest).live ref = some session := alive
          simp only [System.handleRecv, found]
          split
          · have other : CloseCause.endOfStream ≠ .flushed := by decide
            exact Turn.plain (close_and_dismiss_acts coherent order .endOfStream other position
              completed (Or.inl token) (generation_of_live alive))
          · rename_i positive
            have succeeded : 0 < cqe.result := by omega
            exact Turn.plain (Relation.ReflTransGen.single
              (Act.received system cqe rest ref session position completed token alive succeeded))
  | send ref payload =>
      cases alive : system.live ref with
      | none =>
          have stale : (setCompleted system rest).live ref = none := alive
          simp only [System.handleSend, stale]
          exact Turn.plain (Relation.ReflTransGen.single
            (Act.dismissed system cqe rest ref position completed (Or.inr ⟨payload, token⟩) alive))
      | some session =>
          simp only
          by_cases failed : session.outbox = [] ∨ cqe.result ≤ 0
          · have other : CloseCause.sendFailure ≠ .flushed := by decide
            rw [handle_send_closes coherent order payload cqe rest alive failed]
            exact Turn.plain (close_and_dismiss_acts coherent order .sendFailure other position
              completed (Or.inr ⟨payload, token⟩) (generation_of_live alive))
          · have queued : session.outbox ≠ [] := fun empty => failed (Or.inl empty)
            have succeeded : 0 < cqe.result := by
              by_contra negative
              exact failed (Or.inr (by omega))
            rw [handle_send_live order payload cqe rest alive queued succeeded]
            have reclaimed := room_for_next_reclaimed system
              (advance session.outbox cqe.result.toNat)
            have same := room_for_next_undisturbed system
              (advance session.outbox cqe.result.toNat)
            have found := (room_for_next_live system
              (advance session.outbox cqe.result.toNat) ref).trans alive
            have sent := Sent.progressed _ cqe rest ref session payload
              (same.position.trans position) (same.completed.trans completed) token found queued
              succeeded
            have kept := progress_frame (setCompleted (roomForNext system
              (advance session.outbox cqe.result.toNat)) rest) session payload cqe.result.toNat
              (generation_of_live found) (live_eq_some.mp found).2
            have roomy : Coherent (roomForNext system (advance session.outbox
                cqe.result.toNat)) := by
              rcases reclaimed with stays | submits
              · rw [stays]
                exact coherent
              · rw [submits]
                exact coherent_act coherent (Act.submitted system)
            apply Turn.sends _ _ ref order reclaimed sent rfl
            apply maybe_close_acts (coherent_sent roomy sent)
            · exact Or.inl (kept.2.2.2.2.trans (same.position.trans position))
            · exact (congrFun kept.2.1 ref.fd).trans (generation_of_live found)
  | databaseEvent =>
      exact Turn.plain
        (Relation.ReflTransGen.single (Act.awoken system cqe rest position completed token))

theorem line_taken_coherent {system next : System} {ref : SessionRef} {session : Session}
    {line rest : Bytes} (coherent : Coherent system) {order : SectorWorld.CallOrder}
    (position : system.position = .framing ref) (found : system.live ref = some session)
    (cut : System.cutLine session.input = some (line, rest))
    (answered : (takeLine system ref session line rest).handleClientLine order ref line =
      .ok next) :
    Act system (takeLine system ref session line rest) ∧
      Coherent (takeLine system ref session line rest) ∧
      generationAt (takeLine system ref session line rest) ref.fd = some ref.generation := by
  have returns := handle_client_line_ok_iff (takeLine system ref session line rest) order ref line
  have start := Act.lineTaken system ref session line rest position found cut
    (returns.mp ⟨next, answered⟩)
  have kept := coherent_act coherent start
  refine ⟨start, kept, kept.busy ref ?_⟩
  exact congrArg busyWith position

theorem frame_line_acts {system : System} {ref : SessionRef} (coherent : Coherent system)
    (order : SectorWorld.CallOrder) (position : system.position = .framing ref) :
    Acts system (system.frameLine order ref) := by
  have alive : generationAt system ref.fd = some ref.generation := by
    apply coherent.busy
    rw [position]
    rfl
  rcases live_of_generation alive with ⟨session, found⟩
  have same := (live_eq_some.mp found).1
  have turn := frame_line_turn system order ref
  generalize system.frameLine order ref = target at turn
  cases turn with
  | stops nothing =>
      have whole := nothing session same
      exact Relation.ReflTransGen.single
        (Act.framed system ref session position found (Or.inr whole))
  | raises other line rest exception lookup cut failed =>
      obtain rfl := Option.some.inj (same.symm.trans lookup)
      have returns := handle_client_line_ok_iff (takeLine system ref session line rest) order ref
        line
      have unconvertible : ¬Convertible line := by
        rw [← returns]
        intro succeeded
        rcases succeeded with ⟨next, succeeded⟩
        cases failed.symm.trans succeeded
      exact Relation.ReflTransGen.single
        (Act.raised system ref session line rest exception position found cut unconvertible)
  | handles other line rest handled lookup cut answered =>
      obtain rfl := Option.some.inj (same.symm.trans lookup)
      rcases line_taken_coherent coherent position found cut answered with ⟨start, kept, still⟩
      have advanced := handle_client_line_advanced kept order position still answered
      have acts := (Relation.ReflTransGen.single start).trans advanced.acts
      have framing := advanced.position.trans position
      rcases live_of_generation ((congrFun advanced.keys ref.fd).trans still) with ⟨after, remains⟩
      rw [remains, Option.any_some]
      cases closing : after.closeAfterFlush with
      | true => exact acts.tail (Act.framed handled ref after framing remains (Or.inl closing))
      | false =>
          have unchanged : { handled with position := .framing ref } = handled := by
            rw [← framing]
          exact (congrArg (Acts system) unchanged).mpr acts

theorem finish_recv_acts {system : System} {ref : SessionRef} (coherent : Coherent system)
    (order : SectorWorld.CallOrder) (position : system.position = .framed ref) :
    Acts system (system.finishRecv order ref) := by
  have alive : generationAt system ref.fd = some ref.generation := by
    apply coherent.busy
    rw [position]
    rfl
  rcases live_of_generation alive with ⟨session, present⟩
  have advanced {session : Session} {checked : System}
      (checks : Checked system ref session checked) : Advanced system checked := by
    cases checks with
    | fits => exact ⟨Relation.ReflTransGen.refl, rfl, rfl, rfl⟩
    | refused =>
        have direct : DirectLine (.err (ascii "line too long")) := trivial
        exact queue_and_close_advanced system direct (Or.inr position) alive
  have remains {session : Session} {checked : System}
      (checks : Checked system ref session checked) :
      ∃ refreshed, checked.live ref = some refreshed :=
    live_of_generation ((congrFun (advanced checks).keys ref.fd).trans alive)
  have ending := finish_recv_end system order ref
  generalize system.finishRecv order ref = next at ending
  cases ending with
  | gone gone => cases gone.symm.trans present
  | lost _ checked _ checks lost =>
      rcases remains checks with ⟨refreshed, found⟩
      cases lost.symm.trans (live_eq_some.mp found).1
  | parks _ other checked _ checks found closing =>
      rcases remains checks with ⟨refreshed, remains⟩
      obtain rfl := Option.some.inj (found.symm.trans (live_eq_some.mp remains).1)
      have framed := (advanced checks).position.trans position
      have parked := Act.parked checked ref other framed remains closing
      have acts := (advanced checks).acts.tail parked
      apply acts.trans
      apply maybe_close_acts (coherent_acts coherent acts) order (Or.inl rfl)
      exact (congrFun (advanced checks).keys ref.fd).trans alive
  | reads _ other checked _ checks found open_ =>
      rcases remains checks with ⟨refreshed, remains⟩
      obtain rfl := Option.some.inj (found.symm.trans (live_eq_some.mp remains).1)
      have framed := (advanced checks).position.trans position
      have room := get_sqe_undisturbed checked
      apply ((advanced checks).acts.trans (get_sqe_acts checked)).tail
      apply Act.recvReposted checked.getSqe ref other (room.position.trans framed)
      · exact (get_sqe_live checked ref).trans remains
      · exact open_

theorem pop_completion_room (system : System) (session : Session) (completion : DbCompletion)
    (rest : List DbCompletion) :
    roomFor (popCompletion system completion rest) session =
      popCompletion (roomFor system session) completion rest := by
  unfold roomFor
  split
  · rfl
  · by_cases room : system.prepared.length < system.config.ringEntries
    · have roomy : system.getSqe = system := if_pos room
      have after : (popCompletion system completion rest).getSqe =
        popCompletion system completion rest := if_pos room
      rw [roomy, after]
    · have full : system.getSqe = system.submit := if_neg room
      have after : (popCompletion system completion rest).getSqe =
        (popCompletion system completion rest).submit := if_neg room
      rw [full, after]
      rfl

theorem answer_completion_eq {system : System} {completion : DbCompletion}
    {rest : List DbCompletion} {session : Session}
    (alive : system.live completion.client = some session) :
    (if 0 < session.pendingDb then
      (popCompletion system completion rest).setSession completion.client.fd
        (some { session with pendingDb := session.pendingDb - 1 })
      else popCompletion system completion rest).queueResponse completion.client
        (.completion completion.ok completion.requestId completion.line) =
      pushLine (popCompletion (roomFor system session) completion rest) completion.client
        { session with pendingDb := session.pendingDb - 1 }
        (.completion completion.ok completion.requestId completion.line) := by
  rcases live_eq_some.mp alive with ⟨lookup, same⟩
  split
  · have found : ((popCompletion system completion rest).setSession completion.client.fd
        (some { session with pendingDb := session.pendingDb - 1 })).live completion.client =
          some { session with pendingDb := session.pendingDb - 1 } := by
      rw [live_eq_some]
      exact ⟨Function.update_self _ _ _, same⟩
    have room : roomFor ((popCompletion system completion rest).setSession completion.client.fd
        (some { session with pendingDb := session.pendingDb - 1 }))
          { session with pendingDb := session.pendingDb - 1 } =
        (popCompletion (roomFor system session) completion rest).setSession completion.client.fd
          (some { session with pendingDb := session.pendingDb - 1 }) := by
      rw [← pop_completion_room]
      unfold roomFor
      split
      · rfl
      · exact get_sqe_set_session _ _ _
    rw [queue_response_live _ found, room, push_line_over]
  · rename_i none_
    have found : (popCompletion system completion rest).live completion.client =
        some session := alive
    have unchanged : { session with pendingDb := session.pendingDb - 1 } = session := by
      have zero : session.pendingDb = 0 := by omega
      rw [zero, Nat.zero_sub, ← zero]
    rw [queue_response_live _ found, pop_completion_room, unchanged]

theorem handle_completion_eq {system : System} {completion : DbCompletion}
    {rest : List DbCompletion} (order : SectorWorld.CallOrder)
    (completions : system.database.completions = completion :: rest) :
    system.handleCompletion order =
      if completion.notifyClient then
        match (popCompletion system completion rest).live completion.client with
        | none => popCompletion system completion rest
        | some session =>
            ((if 0 < session.pendingDb then
              (popCompletion system completion rest).setSession completion.client.fd
                (some { session with pendingDb := session.pendingDb - 1 })
              else popCompletion system completion rest).queueResponse completion.client
                (.completion completion.ok completion.requestId
                  completion.line)).maybeCloseAfterFlush order completion.client.fd
      else popCompletion system completion rest := by
  simp only [System.handleCompletion, completions]
  rfl

theorem handle_completion_acts {system : System} (coherent : Coherent system)
    (order : SectorWorld.CallOrder) (position : system.position = .completing) :
    Acts system (system.handleCompletion order) := by
  cases completions : system.database.completions with
  | nil =>
      have room := get_sqe_undisturbed system
      have nothing : system.getSqe.database.completions = [] := by
        rw [room.database]
        exact completions
      simp only [System.handleCompletion, completions]
      exact (get_sqe_acts system).tail
        (Act.pollPosted system.getSqe (room.position.trans position) nothing)
  | cons completion rest =>
      rw [handle_completion_eq order completions]
      split
      · rename_i notify
        cases alive : system.live completion.client with
        | none =>
            have stale : (popCompletion system completion rest).live completion.client = none :=
              alive
            simp only [stale]
            exact Relation.ReflTransGen.single
              (Act.skipped system completion rest position completions (Or.inr alive))
        | some session =>
            have found : (popCompletion system completion rest).live completion.client =
              some session := alive
            simp only [found]
            rw [answer_completion_eq alive]
            have room := room_for_undisturbed system session
            have remains := (room_for_live system session completion.client).trans alive
            have waiting : (roomFor system session).database.completions = completion :: rest := by
              rw [room.database]
              exact completions
            have answered := Act.completed (roomFor system session) completion rest session
              (room.position.trans position) waiting notify remains
            have acts := (room_for_acts system session).tail answered
            have same := push_line_undisturbed (popCompletion (roomFor system session) completion
              rest) { session with pendingDb := session.pendingDb - 1 }
              (.completion completion.ok completion.requestId completion.line)
              (generation_of_live remains) (live_eq_some.mp remains).2
            apply acts.trans
            apply maybe_close_acts (coherent_acts coherent acts)
            · exact Or.inr (same.position.trans (room.position.trans position))
            · exact (congrFun same.keys _).trans (generation_of_live remains)
      · rename_i background
        exact Relation.ReflTransGen.single (Act.skipped system completion rest position completions
          (Or.inl (Bool.eq_false_iff.mpr background)))

theorem step_server (system : System) (order : SectorWorld.CallOrder) :
    system.step (.server order) = system.serverStep order := by
  unfold System.step
  split
  · rename_i exception position
    simp only [System.serverStep, position]
  all_goals simp_all

theorem server_step_cqe {system : System} {cqe : Cqe} {rest : List Cqe}
    (order : SectorWorld.CallOrder) (position : system.position = .draining)
    (completed : system.completed = cqe :: rest) :
    system.serverStep order = some ((setCompleted system rest).handleCqe order cqe) := by
  cases system
  simp only at position completed
  subst position completed
  rfl

theorem server_step_completion {system : System} (order : SectorWorld.CallOrder)
    (position : system.position = .completing) :
    system.serverStep order = some (system.handleCompletion order) := by
  cases system
  simp only at position
  subst position
  rfl

/-- What the next piece of `run()` does, by the position. -/
inductive ServerStep (system : System) (order : SectorWorld.CallOrder) : System → Prop
  | submitting (position : system.position = .submitting) :
      ServerStep system order { system.submit with position := .draining }
  | drained (position : system.position = .draining) (completed : system.completed = []) :
      ServerStep system order { system with position := .submitting }
  | draining (cqe : Cqe) (rest : List Cqe) (position : system.position = .draining)
      (completed : system.completed = cqe :: rest) :
      ServerStep system order ((setCompleted system rest).handleCqe order cqe)
  | opened (ref : SessionRef) (position : system.position = .opened ref) :
      ServerStep system order { system.postRecv ref with position := .reaccepting }
  | reaccepting (position : system.position = .reaccepting) :
      ServerStep system order { system.postAccept with position := .draining }
  | framing (ref : SessionRef) (position : system.position = .framing ref) :
      ServerStep system order (system.frameLine order ref)
  | framed (ref : SessionRef) (position : system.position = .framed ref) :
      ServerStep system order (system.finishRecv order ref)
  | completing (position : system.position = .completing) :
      ServerStep system order (system.handleCompletion order)

theorem server_step_cases {system next : System} {order : SectorWorld.CallOrder}
    (taken : system.serverStep order = some next) : ServerStep system order next := by
  unfold System.serverStep at taken
  split at taken
  · rename_i position
    obtain rfl := Option.some.inj taken
    exact ServerStep.submitting position
  · rename_i position
    split at taken
    · rename_i completed
      obtain rfl := Option.some.inj taken
      exact ServerStep.drained position completed
    · rename_i cqe rest completed
      obtain rfl := Option.some.inj taken
      exact ServerStep.draining cqe rest position completed
  · rename_i ref position
    obtain rfl := Option.some.inj taken
    exact ServerStep.opened ref position
  · rename_i position
    obtain rfl := Option.some.inj taken
    exact ServerStep.reaccepting position
  · rename_i ref position
    obtain rfl := Option.some.inj taken
    exact ServerStep.framing ref position
  · rename_i ref position
    obtain rfl := Option.some.inj taken
    exact ServerStep.framed ref position
  · rename_i position
    obtain rfl := Option.some.inj taken
    exact ServerStep.completing position
  · cases taken

theorem server_step_turn {system next : System} {order : SectorWorld.CallOrder}
    (coherent : Coherent system) (taken : system.serverStep order = some next) :
    Turn system next := by
  cases server_step_cases taken with
  | submitting position =>
      apply Turn.plain
      exact (Relation.ReflTransGen.single (Act.submitted system)).tail (Act.waited _ position)
  | drained position completed =>
      apply Turn.plain
      exact Relation.ReflTransGen.single (Act.drained system position completed)
  | draining cqe rest position completed =>
      exact handle_cqe_turn coherent order position completed
  | opened ref position =>
      apply Turn.plain
      exact (get_sqe_acts system).tail
        (Act.recvPosted system.getSqe ref ((get_sqe_undisturbed system).position.trans position))
  | reaccepting position =>
      apply Turn.plain
      exact (get_sqe_acts system).tail
        (Act.acceptPosted system.getSqe ((get_sqe_undisturbed system).position.trans position))
  | framing ref position => exact Turn.plain (frame_line_acts coherent order position)
  | framed ref position => exact Turn.plain (finish_recv_acts coherent order position)
  | completing position => exact Turn.plain (handle_completion_acts coherent order position)

theorem kernel_accept_outside {system next : System} {index fd : Nat}
    (taken : system.kernelAccept index fd = some next) :
    Outside system (.accept index fd) next := by
  unfold System.kernelAccept at taken
  split at taken
  · rename_i connection found
    split at taken
    · cases taken
    · rename_i vacant
      obtain rfl := Option.some.inj taken
      exact Outside.accepts system index fd connection found vacant
  · cases taken

theorem kernel_recv_outside {system next : System} {index : Nat} {bytes : Bytes}
    (taken : system.kernelRecv index bytes = some next) :
    Outside system (.recv index bytes) next := by
  unfold System.kernelRecv at taken
  split at taken
  · rename_i ref connection found
    split at taken
    · rename_i fits
      obtain rfl := Option.some.inj taken
      exact Outside.receives system index bytes ref connection found fits.1 fits.2
    · cases taken
  · cases taken

theorem kernel_send_outside {system next : System} {index count : Nat}
    (taken : system.kernelSend index count = some next) :
    Outside system (.send index count) next := by
  unfold System.kernelSend at taken
  split at taken
  · rename_i ref payload connection found
    split at taken
    · rename_i within
      obtain rfl := Option.some.inj taken
      exact Outside.transmits system index count ref payload connection found within.1 within.2
    · cases taken
  · cases taken

theorem kernel_fail_outside {system next : System} {index : Nat} {result : Int}
    (taken : system.kernelFail index result = some next) :
    Outside system (.fail index result) next := by
  unfold System.kernelFail at taken
  split at taken
  · cases taken
  · rename_i operation found
    split at taken
    · cases taken
    · split at taken
      · rename_i negative
        obtain rfl := Option.some.inj taken
        exact Outside.fails system index operation result found (fun _ => negative) (by omega)
      · cases taken
    · rename_i ref token
      split at taken
      · rename_i notPositive
        obtain rfl := Option.some.inj taken
        refine Outside.fails system index operation result found ?_ notPositive
        intro accept
        rw [token] at accept
        cases accept
      · cases taken
    · rename_i ref payload token
      split at taken
      · rename_i notPositive
        obtain rfl := Option.some.inj taken
        refine Outside.fails system index operation result found ?_ notPositive
        intro accept
        rw [token] at accept
        cases accept
      · cases taken

theorem kernel_poll_outside {system next : System} {index : Nat}
    (taken : system.kernelPoll index = some next) :
    Outside system (.poll index) next := by
  unfold System.kernelPoll at taken
  split at taken
  · rename_i connection found
    split at taken
    · rename_i ready
      obtain rfl := Option.some.inj taken
      exact Outside.polls system index connection found ready
    · cases taken
  · cases taken

theorem take_outside {system next : System}
    (taken : system.database.take.map system.setDatabase = some next) :
    Outside system .take next := by
  rcases Option.map_eq_some_iff.mp taken with ⟨database, popped, rfl⟩
  unfold DbDispatcher.take at popped
  split at popped
  · cases popped
  · rename_i job rest waiting
    split at popped
    · rename_i idle
      obtain rfl := Option.some.inj popped
      exact Outside.takes system job rest waiting idle
    · cases popped

theorem finish_outside {system next : System} {index : Nat} {ok : Bool} {line : Bytes}
    (taken : (system.database.finish index ok line).map system.setDatabase = some next) :
    Outside system (.finish index ok line) next := by
  rcases Option.map_eq_some_iff.mp taken with ⟨database, pushed, rfl⟩
  unfold DbDispatcher.finish at pushed
  split at pushed
  · cases pushed
  · rename_i job working
    obtain rfl := Option.some.inj pushed
    exact Outside.finishes system index job ok line working

theorem signal_outside {system next : System}
    (taken : system.database.signal.map system.setDatabase = some next) :
    Outside system .signal next := by
  rcases Option.map_eq_some_iff.mp taken with ⟨database, written, rfl⟩
  unfold DbDispatcher.signal at written
  split at written
  · cases written
  · rename_i owed
    obtain rfl := Option.some.inj written
    exact Outside.signals system owed

theorem step_cases {system next : System} {label : Label}
    (taken : system.step label = some next) :
    (∃ order, label = .server order ∧ system.serverStep order = some next) ∨
      Outside system label next := by
  unfold System.step at taken
  split at taken
  · cases taken
  · exact Or.inl ⟨_, rfl, taken⟩
  · exact Or.inr (kernel_accept_outside taken)
  · exact Or.inr (kernel_recv_outside taken)
  · exact Or.inr (kernel_send_outside taken)
  · exact Or.inr (kernel_fail_outside taken)
  · exact Or.inr (kernel_poll_outside taken)
  · exact Or.inr (take_outside taken)
  · exact Or.inr (finish_outside taken)
  · exact Or.inr (signal_outside taken)

theorem kept_by_acts {kept : System → Prop}
    (acts : ∀ system next, Coherent system → kept system → Act system next → kept next)
    {system next : System} (coherent : Coherent system) (before : kept system)
    (chain : Acts system next) : Coherent next ∧ kept next := by
  induction chain with
  | refl => exact ⟨coherent, before⟩
  | tail _ act ih => exact ⟨coherent_act ih.1 act, acts _ _ ih.1 ih.2 act⟩

/-- A send that went through is only looked at in the state the step began in. -/
theorem kept_by_turn {kept : System → Prop}
    (acts : ∀ system next, Coherent system → kept system → Act system next → kept next)
    {source target : System}
    (sends : ∀ ref room middle, (room = source ∨ room = source.submit) → Coherent room →
      kept room → Sent room ref middle → kept middle)
    (coherent : Coherent source) (before : kept source) (turn : Turn source target) :
    Coherent target ∧ kept target := by
  cases turn with
  | plain chain => exact kept_by_acts acts coherent before chain
  | sends room middle ref order reclaimed sent checked chain =>
      have roomy : Coherent room ∧ kept room := by
        rcases reclaimed with rfl | rfl
        · exact ⟨coherent, before⟩
        · have act := Act.submitted source
          exact ⟨coherent_act coherent act, acts _ _ coherent before act⟩
      have later := sends ref room middle reclaimed roomy.1 roomy.2 sent
      exact kept_by_acts acts (coherent_sent roomy.1 sent) later chain

theorem coherent_step {system next : System} {label : Label} (coherent : Coherent system)
    (taken : system.step label = some next) : Coherent next := by
  rcases step_cases taken with ⟨order, _, server⟩ | outside
  · have turn := server_step_turn coherent server
    exact (kept_by_turn (fun _ _ _ _ _ => trivial) (fun _ _ _ _ _ _ _ => trivial) coherent
      trivial turn).1
  · exact coherent_outside coherent outside

theorem coherent_reachable {config : ServerConfig} {poolSize : Nat} {system : System}
    (reached : Reachable System.step (System.start config poolSize) system) : Coherent system :=
  reached.invariant (coherent_start config poolSize) fun _ _ _ coherent taken =>
    coherent_step coherent taken

/-- A property kept by every act, by every send that went through and by every
step of the kernel and the workers is kept by every step. -/
theorem kept_by_step {kept : System → Prop}
    (acts : ∀ system next, Coherent system → kept system → Act system next → kept next)
    (sends : ∀ ref system next, Coherent system → kept system → Sent system ref next → kept next)
    (outside : ∀ system label next, Coherent system → kept system →
      Outside system label next → kept next)
    {system next : System} {label : Label} (coherent : Coherent system) (before : kept system)
    (taken : system.step label = some next) : kept next := by
  rcases step_cases taken with ⟨order, _, server⟩ | elsewhere
  · exact (kept_by_turn acts (fun ref room middle _ => sends ref room middle) coherent before
      (server_step_turn coherent server)).2
  · exact outside system label next coherent before elsewhere

/-- The rule for invariants of the server. -/
theorem kept_by_run {kept : System → Prop} {config : ServerConfig} {poolSize : Nat}
    (initial : kept (System.start config poolSize))
    (acts : ∀ system next, Coherent system → kept system → Act system next → kept next)
    (sends : ∀ ref system next, Coherent system → kept system → Sent system ref next → kept next)
    (outside : ∀ system label next, Coherent system → kept system →
      Outside system label next → kept next)
    {system : System}
    (reached : Reachable System.step (System.start config poolSize) system) : kept system := by
  have both : Coherent system ∧ kept system := by
    apply reached.invariant ⟨coherent_start config poolSize, initial⟩
    intro source label next before taken
    exact ⟨coherent_step before.1 taken, kept_by_step acts sends outside before.1 before.2 taken⟩
  exact both.2

end DungeonPortfolio.ServerSteps
