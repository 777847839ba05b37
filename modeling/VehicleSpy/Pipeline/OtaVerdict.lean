import VehicleSpy.Pipeline.OTAHttpTransport

/-! # The verdict on an update

The host collects the device's reply in a loop with a deadline and drains what is left of a long
one. The reply is the bytes of all reads, however it is cut into them. The update passes for a
success if the digits 200 occur anywhere in it.
-/

namespace VehicleSpy.Pipeline

open Text

/-- What `select` on the socket, and the `recv` behind a readable one, come to. -/
inductive Selected
  | failed (eintr : Bool)
  | notReady
  | recvFailed
  | closed
  | received (data : Bytes)
  deriving DecidableEq, Repr

namespace Selected

def data : Selected → Bytes
  | .received data => data
  | _ => []

def isReceived : Selected → Bool
  | .received _ => true
  | _ => false

/-- Whether the receive loop goes on. -/
def goesOn : Selected → Bool
  | .failed eintr => eintr
  | .notReady => true
  | .recvFailed | .closed => false
  | .received _ => true

end Selected

/-- One pass of the receive loop: the time to the deadline, as the pass reads it. -/
structure RecvPoll where
  remainingMs : ℤ
  selected : Selected
  deriving DecidableEq, Repr

inductive RecvIter | KeepGoing | Stop | ReturnPartial
  deriving DecidableEq, Repr

/-- What has been collected. -/
structure Collected where
  out : Bytes := []
  headersComplete : Bool := false
  deriving DecidableEq, Repr

namespace OTAHttpTransport

def recvIteration (c : Collected) (poll : RecvPoll) : Collected × RecvIter :=
  if poll.remainingMs ≤ 0 then
    if !c.headersComplete then (c, .ReturnPartial) else (c, .Stop)
  else
    match poll.selected with
    | .received data =>
      let out := c.out ++ data
      ({ out
         headersComplete := c.headersComplete || (findStr (CRLF ++ CRLF) out).isSome }, .KeepGoing)
    | .recvFailed => (c, .Stop)
    | .closed => (c, .Stop)
    | .failed eintr => (c, if eintr then .KeepGoing else .Stop)
    | .notReady => (c, .KeepGoing)

/-- The receive loop; the script holds the passes that begin before the deadline. -/
def recvLoop (c : Collected) : List RecvPoll → Collected × RecvIter
  | [] => (c, .KeepGoing)
  | poll :: polls =>
    match recvIteration c poll with
    | (c, .KeepGoing) => recvLoop c polls
    | (c, result) => (c, result)

def drain (out : Bytes) : List Selected → Bytes
  | .received data :: polls => drain (out ++ data) polls
  | _ => out

def recvResponse (polls : List RecvPoll) (drains : List Selected) : Bytes :=
  match recvLoop {} polls with
  | (c, .ReturnPartial) => c.out
  | (c, _) => if c.headersComplete then drain c.out drains else c.out

section Reply

/-- The bytes that the device sends until the loop stops. -/
def replyHead (polls : List RecvPoll) : Bytes :=
  (polls.takeWhile fun poll => decide (0 < poll.remainingMs) && poll.selected.goesOn).flatMap
    (·.selected.data)

/-- All bytes that it sends, those behind the loop only if the head of the message is complete. -/
def reply (polls : List RecvPoll) (drains : List Selected) : Bytes :=
  replyHead polls ++
    if (findStr (CRLF ++ CRLF) (replyHead polls)).isSome then
      (drains.takeWhile Selected.isReceived).flatMap Selected.data
    else []

theorem drain_eq (out : Bytes) (drains : List Selected) :
    drain out drains = out ++ (drains.takeWhile Selected.isReceived).flatMap Selected.data := by
  induction drains generalizing out with
  | nil => exact (List.append_nil out).symm
  | cons selected drains ih =>
    cases selected with
    | received data =>
      rw [drain, ih, List.takeWhile_cons_of_pos (by rfl), List.flatMap_cons, List.append_assoc]
      rfl
    | failed | notReady | recvFailed | closed =>
      rw [drain, List.takeWhile_cons_of_neg (by simp [Selected.isReceived])]
      · exact (List.append_nil out).symm
      · exact nofun

/-- The head is known to be complete as soon as the empty line has come. -/
def Consistent (c : Collected) : Prop :=
  c.headersComplete = (findStr (CRLF ++ CRLF) c.out).isSome

/-- What the loop comes to: it has collected some bytes, and returns early only without a complete
head. -/
def Collects (c : Collected) (bytes : Bytes) (r : Collected × RecvIter) : Prop :=
  r.1.out = c.out ++ bytes ∧ Consistent r.1 ∧
    (r.2 = .ReturnPartial → r.1.headersComplete = false)

theorem collects_nothing {c : Collected} {result : RecvIter} (h : Consistent c)
    (hr : result = .ReturnPartial → c.headersComplete = false) :
    Collects c [] (c, result) :=
  ⟨(List.append_nil _).symm, h, hr⟩

theorem consistent_received {c : Collected} (h : Consistent c) (data : Bytes) :
    Consistent ⟨c.out ++ data,
      c.headersComplete || (findStr (CRLF ++ CRLF) (c.out ++ data)).isSome⟩ := by
  unfold Consistent at h ⊢
  dsimp only
  rw [h]
  cases hfound : findStr (CRLF ++ CRLF) c.out with
  | none => rfl
  | some i => rw [findStr_append_right hfound, Option.isSome_some, Bool.or_self]

theorem recvLoop_collects {c : Collected} (h : Consistent c) (polls : List RecvPoll) :
    Collects c (replyHead polls) (recvLoop c polls) := by
  induction polls generalizing c with
  | nil => exact collects_nothing h nofun
  | cons poll polls ih =>
    rw [recvLoop, replyHead, recvIteration]
    rcases Int.lt_or_le 0 poll.remainingMs with hpos | hneg
    · rw [if_neg (Int.not_le.mpr hpos)]
      rcases hsel : poll.selected with (_ | _) | _ | _ | _ | data
      · rw [List.takeWhile_cons_of_neg (by simp [hsel, Selected.goesOn])]
        exact collects_nothing h nofun
      · rw [List.takeWhile_cons_of_pos (by simp [hsel, Selected.goesOn, hpos]), List.flatMap_cons,
          hsel]
        exact ih h
      · rw [List.takeWhile_cons_of_pos (by simp [hsel, Selected.goesOn, hpos]), List.flatMap_cons,
          hsel]
        exact ih h
      · rw [List.takeWhile_cons_of_neg (by simp [hsel, Selected.goesOn])]
        exact collects_nothing h nofun
      · rw [List.takeWhile_cons_of_neg (by simp [hsel, Selected.goesOn])]
        exact collects_nothing h nofun
      · rw [List.takeWhile_cons_of_pos (by simp [hsel, Selected.goesOn, hpos]), List.flatMap_cons,
          hsel]
        obtain ⟨hout, hrest⟩ := ih (consistent_received h data)
        refine ⟨?_, hrest⟩
        dsimp only at hout ⊢
        rw [hout, List.append_assoc]
        rfl
    · rw [if_pos hneg, List.takeWhile_cons_of_neg (by simp [Int.not_lt.mpr hneg])]
      cases hhead : c.headersComplete with
      | false => exact collects_nothing h fun _ => hhead
      | true => exact collects_nothing h nofun

/-- The reply that is judged is the bytes that have come, however they are cut into reads. -/
theorem recvResponse_eq (polls : List RecvPoll) (drains : List Selected) :
    recvResponse polls drains = reply polls drains := by
  obtain ⟨hout, hhead, hshort⟩ := recvLoop_collects (c := {}) rfl polls
  rw [List.nil_append] at hout
  unfold Consistent at hhead
  rw [hout] at hhead
  rw [recvResponse, reply, ← hhead]
  rcases hloop : recvLoop {} polls with ⟨c, result⟩
  rw [hloop] at hout hshort
  have hkeep (hdone : c.headersComplete = false) :
      c.out = replyHead polls ++ if c.headersComplete = true then
        (drains.takeWhile Selected.isReceived).flatMap Selected.data else [] := by
    rw [hdone, if_neg Bool.false_ne_true, List.append_nil]
    exact hout
  cases result with
  | ReturnPartial => exact hkeep (hshort rfl)
  | KeepGoing | Stop =>
    dsimp only
    split
    · rw [drain_eq, hout]
    · next hdone => rw [List.append_nil, hout]

end Reply

section Verdict

variable (t : OTAHttpTransport) (firmware signature : Bytes) (sends : List ℤ)

/-- Whether `push` comes to wait for a reply. -/
def Sent : Prop :=
  0 ≤ t.fd ∧ signature.length = 64 ∧ (sendAll (t.request firmware signature) sends).1 = true

instance : Decidable (Sent t firmware signature sends) := inferInstanceAs (Decidable (_ ∧ _ ∧ _))

/-- `push`, with what the socket brings. -/
def pushOver (polls : List RecvPoll) (drains : List Selected) : Bool × OTAHttpTransport × Bytes :=
  t.push firmware signature sends (recvResponse polls drains)

/-- What the server returns to `push`. -/
def returned (polls : List RecvPoll) (drains : List Selected) : Bytes :=
  if Sent t firmware signature sends then reply polls drains else []

variable {t firmware signature sends}

theorem push_iff {response : Bytes} :
    (t.push firmware signature sends response).1 = true ↔
      Sent t firmware signature sends ∧ ascii "200" <:+: response := by
  unfold push Sent
  rw [← findStr_isSome_iff]
  by_cases hfd : t.fd < 0
  · rw [if_pos hfd]
    exact iff_of_false Bool.false_ne_true fun h => absurd h.1.1 (Int.not_le.mpr hfd)
  rw [if_neg hfd]
  by_cases hsig : signature.length = 64
  · rw [if_neg (not_not_intro hsig)]
    rcases hsend : sendAll (t.request firmware signature) sends with ⟨_ | _, sent⟩
    · exact iff_of_false Bool.false_ne_true fun h => Bool.false_ne_true h.1.2.2
    · dsimp only
      split
      · next hfound => exact iff_of_true rfl ⟨⟨Int.not_lt.mp hfd, hsig, rfl⟩, hfound⟩
      · next hfound => exact iff_of_false Bool.false_ne_true fun h => hfound h.2
  · rw [if_pos hsig]
    exact iff_of_false Bool.false_ne_true fun h => hsig h.1.2.1

end Verdict

/-- A push is successful just for a reply of status 200, exactly when the digits occur in a reply
only if it is one. -/
theorem push_status_iff (t : OTAHttpTransport) (firmware signature : Bytes) (sends : List ℤ)
    (polls : List RecvPoll) (drains : List Selected) :
    ((t.pushOver firmware signature sends polls drains).1 = true ↔
        statusCode (t.returned firmware signature sends polls drains) = some (ascii "200")) ↔
      (ascii "200" <:+: t.returned firmware signature sends polls drains →
        statusCode (t.returned firmware signature sends polls drains) = some (ascii "200")) := by
  have hverdict : (t.pushOver firmware signature sends polls drains).1 = true ↔
      ascii "200" <:+: t.returned firmware signature sends polls drains := by
    rw [pushOver, push_iff, recvResponse_eq, returned]
    split
    · next hsent => exact and_iff_right hsent
    · next hsent =>
      refine iff_of_false (fun h => hsent h.1) fun h => ?_
      exact absurd h.length_le (by decide)
  rw [hverdict]
  exact ⟨Iff.mp, fun h => ⟨h, infix_of_statusCode⟩⟩

/-- An error of the device whose text is 200 bytes long. -/
def refusal : Bytes :=
  ascii "HTTP/1.1 500 Internal Server Error" ++ CRLF ++ ascii "Content-Length: 200" ++ CRLF ++ CRLF

/-- It passes for a success. -/
theorem refusal_succeeds :
    ¬ (({ device with fd := 3 }.pushOver [0xE9] (List.replicate 64 0)
          [(({ device with fd := 3 } : OTAHttpTransport).request [0xE9]
            (List.replicate 64 0)).length]
          [⟨5000, .received refusal⟩, ⟨4990, .closed⟩] []).1 = true ↔
        statusCode ({ device with fd := 3 }.returned [0xE9] (List.replicate 64 0)
          [(({ device with fd := 3 } : OTAHttpTransport).request [0xE9]
            (List.replicate 64 0)).length]
          [⟨5000, .received refusal⟩, ⟨4990, .closed⟩] []) = some (ascii "200")) := by
  have hsent : Sent { device with fd := 3 } [0xE9] (List.replicate 64 0)
      [(({ device with fd := 3 } : OTAHttpTransport).request [0xE9]
        (List.replicate 64 0)).length] :=
    ⟨by decide, by decide, sendAll_once _⟩
  have hreply : reply [⟨5000, .received refusal⟩, ⟨4990, .closed⟩] [] = refusal := by
    decide +kernel
  rw [pushOver, push_iff, recvResponse_eq, returned, if_pos hsent, hreply]
  intro h
  exact absurd (h.mp ⟨hsent, findStr_isSome_iff.mp (by decide +kernel)⟩) (by decide +kernel)

end OTAHttpTransport

end VehicleSpy.Pipeline
