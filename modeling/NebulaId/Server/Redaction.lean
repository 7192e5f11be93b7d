import NebulaId.Machine.Relabel
import NebulaId.Monitoring.AddressTexts
import NebulaId.Server.AuditTrail

/-!
# What the audit file tells of a client (`server/audit/logger.rs`)

The file gets the first three octets of an IPv4 address and the first four segments of an IPv6
address. A mapped IPv4 address is an IPv6 address, and nothing of it is written.

* `redacted_alike_iff`: two addresses are written alike exactly when they share their network.
* `hosts_unseen`: so in any run of the logger the clients may have had other hosts.
-/

namespace NebulaId

open Machine

namespace IpAddr

/-- The addresses share their first three octets, or their first four segments. -/
def SameNetwork : IpAddr → IpAddr → Prop
  | .v4 a b c _, .v4 a' b' c' _ => a = a' ∧ b = b' ∧ c = c'
  | .v6 segments, .v6 segments' => segments.toList.take 4 = segments'.toList.take 4
  | _, _ => False

end IpAddr

namespace AuditEvent

open IpAddr

theorem redactIp_v4 {ip : String} {a b c d : UInt8} (h : fromStr ip.toList = some (.v4 a b c d)) :
    (redactIp ip).toList = decimal a ++ '.' :: (decimal b ++ '.' :: (decimal c ++ ['.', 'x'])) := by
  unfold redactIp
  rw [h]
  simp

theorem redactIp_v6 {ip : String} {segments : Vector UInt16 8}
    (h : fromStr ip.toList = some (.v6 segments)) :
    (redactIp ip).toList = segmentsText (segments.toList.take 4) ++ "x:x:x:x".toList := by
  unfold redactIp
  rw [h]
  simp [segmentsText]

/-- An octet is followed by a point, a segment by a colon. -/
theorem redactIp_v4_ne_v6 {ip ip' : String} {a b c d : UInt8} {segments : Vector UInt16 8}
    (h : fromStr ip.toList = some (.v4 a b c d)) (h' : fromStr ip'.toList = some (.v6 segments)) :
    redactIp ip ≠ redactIp ip' := by
  have hlength : segments.toList.length = 8 := segments.size_toArray
  obtain ⟨s, rest, htake⟩ : ∃ s rest, segments.toList.take 4 = s :: rest := by
    apply List.exists_cons_of_ne_nil
    apply List.ne_nil_of_length_pos
    rw [List.length_take]
    omega
  intro heq
  have htexts := congrArg String.toList heq
  rw [redactIp_v4 h, redactIp_v6 h', htake] at htexts
  simp only [segmentsText, List.flatMap_cons, List.append_assoc, List.singleton_append] at htexts
  exact decimal_ne_hex a s _ htexts

/-- What is written of an address tells its network, and no more. -/
theorem redactIp_alike_iff {ip ip' : String} {addr addr' : IpAddr}
    (h : fromStr ip.toList = some addr) (h' : fromStr ip'.toList = some addr') :
    redactIp ip = redactIp ip' ↔ SameNetwork addr addr' := by
  cases addr with
  | v4 a b c d =>
    cases addr' with
    | v4 a' b' c' d' =>
      rw [← String.toList_inj, redactIp_v4 h, redactIp_v4 h']
      constructor
      · intro heq
        obtain ⟨ha, heq⟩ := decimal_append_inj heq
        obtain ⟨hb, heq⟩ := decimal_append_inj heq
        exact ⟨ha, hb, (decimal_append_inj heq).1⟩
      · rintro ⟨rfl, rfl, rfl⟩
        rfl
    | v6 segments' => exact iff_of_false (redactIp_v4_ne_v6 h h') fun hsame => hsame
  | v6 segments =>
    cases addr' with
    | v4 a' b' c' d' => exact iff_of_false (redactIp_v4_ne_v6 h' h).symm fun hsame => hsame
    | v6 segments' =>
      have hlength : segments.toList.length = 8 := segments.size_toArray
      have hlength' : segments'.toList.length = 8 := segments'.size_toArray
      rw [← String.toList_inj, redactIp_v6 h, redactIp_v6 h']
      constructor
      · refine segmentsText_inj ?_
        rw [List.length_take, List.length_take, hlength, hlength']
      · intro hsame
        rw [show segments.toList.take 4 = segments'.toList.take 4 from hsame]

/-- **Networks are told apart, hosts are not.** Two addresses are written alike exactly when they
share their first three octets, or their first four segments. -/
theorem redacted_alike_iff (addr addr' : IpAddr) :
    redactIp (String.ofList addr.display) = redactIp (String.ofList addr'.display) ↔
      SameNetwork addr addr' := by
  apply redactIp_alike_iff
  · rw [String.toList_ofList, fromStr_display]
  · rw [String.toList_ofList, fromStr_display]

example : redactIp "2001:db8::7" = "2001:db8:0:0:x:x:x:x" ∧
    redactIp "::ffff:10.0.0.7" = "0:0:0:0:x:x:x:x" := by decide +kernel

/-- The text of another address, where there is one. -/
def moved (g : IpAddr → IpAddr) (ip : String) : String :=
  match fromStr ip.toList with
  | some addr => String.ofList (g addr).display
  | none => ip

/-- The event, had its client had another address. -/
def moveClient (g : IpAddr → IpAddr) (event : AuditEvent) : AuditEvent :=
  { event with clientIp := event.clientIp.map (moved g) }

theorem redactIp_moved {g : IpAddr → IpAddr} (hg : ∀ addr, SameNetwork (g addr) addr)
    (ip : String) : redactIp (moved g ip) = redactIp ip := by
  unfold moved
  cases h : fromStr ip.toList with
  | none => rfl
  | some addr =>
    refine (redactIp_alike_iff ?_ h).mpr (hg addr)
    rw [String.toList_ofList, fromStr_display]

theorem persisted_moveClient {g : IpAddr → IpAddr} (hg : ∀ addr, SameNetwork (g addr) addr)
    (event : AuditEvent) : (event.moveClient g).persisted = event.persisted := by
  have hip : (event.moveClient g).clientIp.map redactIp = event.clientIp.map redactIp := by
    change (event.clientIp.map (moved g)).map redactIp = event.clientIp.map redactIp
    rw [Option.map_map]
    exact congrArg (event.clientIp.map ·) (funext (redactIp_moved hg))
  unfold persisted
  rw [hip]
  rfl

end AuditEvent

/-! ## The logger goes along -/

def LogTask.relabel (f : AuditEvent → AuditEvent) : LogTask → LogTask
  | .waiting event => .waiting (f event)
  | .sending event => .sending (f event)
  | .done => .done

def AuditLogger.relabel (f : AuditEvent → AuditEvent) (l : AuditLogger) : AuditLogger :=
  { l with events := l.events.map f, file := l.file.map (List.map f) }

/-- The lines that are written stay as they are. -/
def AuditTrail.relabel (f : AuditEvent → AuditEvent) (t : AuditTrail) : AuditTrail where
  logger := t.logger.relabel f
  written := t.written
  entered := t.entered.map f

namespace AuditCrowd

variable {f : AuditEvent → AuditEvent}

theorem enter_relabel (f : AuditEvent → AuditEvent) (l : AuditLogger) (event : AuditEvent) :
    (l.relabel f).enter (f event) = (l.enter event).relabel f := by
  cases hfile : l.file <;>
    simp [AuditLogger.enter, AuditLogger.log, AuditLogger.relabel, AuditLogger.droppedCount, hfile]

theorem send_relabel (f : AuditEvent → AuditEvent) (l : AuditLogger) (event : AuditEvent) :
    (l.relabel f).send (f event) = (l.send event).relabel f := by
  cases hfile : l.file <;> simp [AuditLogger.send, AuditLogger.relabel, hfile]

theorem writeNext_relabel (hf : ∀ event, (f event).persisted = event.persisted) (t : AuditTrail) :
    (t.relabel f).writeNext = t.writeNext.relabel f := by
  cases hfile : t.logger.file with
  | none => simp [AuditTrail.writeNext, AuditTrail.relabel, AuditLogger.relabel, hfile]
  | some sent =>
    cases hevent : sent[t.written.length]? with
    | none =>
      simp [AuditTrail.writeNext, AuditTrail.relabel, AuditLogger.relabel, hfile, hevent]
    | some event =>
      simp [AuditTrail.writeNext, AuditTrail.relabel, AuditLogger.relabel, hfile, hevent, hf]

theorem relabelled (hf : ∀ event, (f event).persisted = event.persisted) :
    program.Relabelled (AuditTrail.relabel f) (LogTask.relabel f) f where
  start event := rfl
  step _ t p := by
    cases p with
    | waiting event => simp [program, LogTask.relabel, AuditTrail.relabel, enter_relabel]
    | sending event => simp [program, LogTask.relabel, AuditTrail.relabel, send_relabel]
    | done => rfl
  pass _ t := writeNext_relabel hf t

/-- **Hosts are not seen.** In any run of the logger the clients may have had any other addresses in
their networks: with the same interleaving the file is the same. -/
theorem hosts_unseen {g : IpAddr → IpAddr} (hg : ∀ addr, IpAddr.SameNetwork (g addr) addr)
    {maxEvents : ℕ} {fileLogging : Bool} {acts : List (CrowdAct AuditEvent Unit Unit)}
    {w : AuditCrowd} (h : run (Crowd.step program) (start maxEvents fileLogging) acts = some w) :
    ∃ w', run (Crowd.step program) (start maxEvents fileLogging)
        (acts.map (CrowdAct.relabel (AuditEvent.moveClient g))) = some w' ∧
      w'.shared.entered = w.shared.entered.map (AuditEvent.moveClient g) ∧
      w'.shared.written = w.shared.written := by
  have hrun := Crowd.run_relabel (relabelled (AuditEvent.persisted_moveClient hg))
    (start maxEvents fileLogging) acts
  have hstart : (start maxEvents fileLogging).relabel (AuditTrail.relabel (AuditEvent.moveClient g))
      (LogTask.relabel (AuditEvent.moveClient g)) = start maxEvents fileLogging := by
    cases fileLogging <;> rfl
  rw [hstart, h] at hrun
  exact ⟨_, hrun, rfl, rfl⟩

/-- The address of the network, for a dotted one. -/
def zeroHost : IpAddr → IpAddr
  | .v4 a b c _ => .v4 a b c 0
  | addr => addr

theorem sameNetwork_zeroHost (addr : IpAddr) : IpAddr.SameNetwork (zeroHost addr) addr := by
  cases addr with
  | v4 a b c d => exact ⟨rfl, rfl, rfl⟩
  | v6 segments => rfl

def clientEvent : AuditEvent := { sampleEvent 1 with clientIp := some "10.0.0.7" }

/-- An event of a client, and the same event of another one. -/
theorem hosts_unseen_one : ∃ w w',
    run (Crowd.step program) (start 10 true)
      [.spawn clientEvent, .move 0 (), .move 0 (), .pass ()] = some w ∧
    run (Crowd.step program) (start 10 true)
      [.spawn (clientEvent.moveClient zeroHost), .move 0 (), .move 0 (), .pass ()] = some w' ∧
    w'.shared.written = w.shared.written ∧
    w.shared.written.map AuditEvent.clientIp = [some "10.0.0.x"] := by
  obtain ⟨w, hw⟩ : ∃ w, run (Crowd.step program) (start 10 true)
      [.spawn clientEvent, .move 0 (), .move 0 (), .pass ()] = some w := ⟨_, rfl⟩
  obtain ⟨w', hw', -, hwritten⟩ := hosts_unseen sameNetwork_zeroHost hw
  refine ⟨w, w', hw, hw', hwritten, ?_⟩
  cases hw
  decide +kernel

end AuditCrowd

end NebulaId
