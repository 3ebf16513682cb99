/-
This file proves where the calls and the answers on a network come from.
-/

import Onvifxx.Library.Causality
import Onvifxx.Proof.ByeIdentity
import Onvifxx.Proof.NetworkSafety
import Onvifxx.Proof.RemoteProbe
import Onvifxx.Proof.ReplyObjects
import Onvifxx.Proof.ReplyHeader
import Onvifxx.Proof.UuidForm

namespace Onvifxx.Network

open Execution RemoteDiscovery Wsdd Codec Run

/-- The body of a `Hello` carries the whole announcement. -/
def helloBody (arg : HelloT) : WsdHelloType where
  endpointReference := arg.endpoint.map wsaEndpoint
  types := arg.types
  scopes := arg.scopes.map wsdScopes
  xaddrs := arg.xaddrs
  metadataVersion := arg.version

/-- The message that a proxy makes of a call. -/
def encoded : HandlerCall → Message
  | .hello arg => .hello (helloBody arg)
  | .bye arg => .bye (Proxy.byeBody arg)
  | .probe arg => .probe ⟨arg.types, arg.scopes.map wsdScopes⟩

/-- A port type arrives in the place of the address and is lost itself. -/
def arrived (endpoint : EndpointReferenceT) : EndpointReferenceT :=
  { endpoint with address := endpoint.portType.or endpoint.address, portType := none }

/-- The call that a service makes of the message of a call. -/
def received : HandlerCall → HandlerCall
  | .hello arg => .hello { arg with endpoint := arg.endpoint.map arrived }
  | .bye arg => .bye ⟨arg.endpoint.map arrived, none, none, none, 0⟩
  | .probe arg => .probe arg

/-- A message with a header has an identifier. -/
def Identified (header : Option SoapEnvHeader) : Prop :=
  ∀ found, header = some found → found.wsaMessageID.isEmpty = false

theorem endpointT_wsaEndpoint : endpointT ∘ wsaEndpoint = arrived := by
  funext endpoint
  obtain ⟨address, portType, serviceName⟩ := endpoint
  simp [endpointT, wsaEndpoint, arrived, Option.map_map, Function.comp_def]

theorem helloArg_helloBody (arg : HelloT) :
    helloArg (helloBody arg) = .ok { arg with endpoint := arg.endpoint.map arrived } := by
  rw [← endpointT_wsaEndpoint, helloArg, arg_eq]
  simp [helloBody, Option.map_map, Function.comp_def]

theorem receivedBye_arrived (arg : ByeT) :
    Proxy.receivedBye arg = ⟨arg.endpoint.map arrived, none, none, none, 0⟩ := by
  rw [← endpointT_wsaEndpoint, Proxy.receivedBye]

theorem hello_body {surroundings : Proxy.Surroundings} {arg : HelloT} {state : Wsa.State}
    {call : Proxy.Call WsdHelloType Unit} (ended : Proxy.hello surroundings arg state = .ok call) :
    call.envelope.body = helloBody arg := by
  obtain ⟨next, announced, rest⟩ := bind_eq_ok.mp ended
  rw [versionedRequest_eq, ok_bind] at rest
  rw [← Except.ok.inj rest, Proxy.finish_envelope]
  rfl

theorem randUuid_isEmpty (randoms : Wsa.Randoms) : (Wsa.randUuid randoms).isEmpty = false := by
  have length := Wsa.uuidText_length randoms
  have some : (Wsa.uuidText randoms).length ≠ 0 := by omega
  rw [Wsa.randUuid]
  simpa using some

/-- A message with a header carries the identifier of some random integers. -/
def Carries (randoms : Wsa.Randoms) (header : Option SoapEnvHeader) : Prop :=
  ∀ found, header = some found → found.wsaMessageID = Wsa.randUuid randoms

theorem Carries.identified {randoms : Wsa.Randoms} {header : Option SoapEnvHeader}
    (carries : Carries randoms header) : Identified header := by
  intro found present
  rw [carries found present]
  exact randUuid_isEmpty randoms

/-- A request puts a fresh identifier into the header, if there is one. -/
theorem request_carries {surroundings : Wsa.Surroundings} {target action : String}
    {state next : Wsa.State} {code : Int} (named : action.isEmpty = false)
    (ended : Wsa.request surroundings target action state = .ok (code, next)) :
    Carries surroundings.randoms next.soap.header := by
  obtain ⟨_, reached, ends, -, -, header⟩ := Wsa.request_ends surroundings target state named
  rw [ended, Except.ok.injEq, Prod.mk.injEq] at ends
  intro found present
  rw [ends.2, header] at present
  split at present
  · rw [← Option.some.inj present]
    rfl
  · cases present

/-- The sent header keeps the identifier of the prepared one. -/
theorem sentHeader_carries {randoms : Wsa.Randoms} {state : Wsa.State}
    (carries : Carries randoms state.soap.header) : Carries randoms (Wsa.sentHeader state) := by
  intro found sent
  obtain ⟨header, present, rfl⟩ := Option.map_eq_some_iff.mp sent
  exact carries header present

theorem announceHeader_carries {surroundings : Wsa.Surroundings} {action : String}
    {state next : Wsa.State} (named : action.isEmpty = false)
    (ended : Proxy.announceHeader surroundings action state = .ok next) :
    Carries surroundings.randoms next.soap.header := by
  obtain ⟨⟨code, requested⟩, prepared, rest⟩ := bind_eq_ok.mp ended
  have carries := request_carries named prepared
  dsimp only at rest
  rw [Wsa.addAppSequence_eq] at rest
  cases present : requested.soap.header with
  | none => simp [present] at rest
  | some header =>
      simp only [present, ok_bind, pure_eq_ok, Except.ok.injEq] at rest
      subst next
      intro found same
      rw [← Option.some.inj same]
      exact carries header present

/-- A completed probe sends an identified header and draws no number. -/
theorem probe_carries {surroundings : Proxy.Surroundings} {arg : ProbeT} {state : Wsa.State}
    {call : Proxy.Call WsdProbeType ProbeMatchesT}
    (ended : Proxy.probe surroundings arg state = .ok call) :
    ∃ next, call = Proxy.finish surroundings.stub next ⟨arg.types, arg.scopes.map wsdScopes⟩ .missing ∧
      next.statics = state.statics ∧ Carries surroundings.request.randoms next.soap.header := by
  have named : (soapNamespaceOfWsd ++ "/Probe").isEmpty = false := by decide
  obtain ⟨code, next, ends, statics, -, -⟩ :=
    Wsa.request_ends surroundings.request Proxy.toTsUrl state named
  refine ⟨next, ?_, statics, request_carries named ends⟩
  simp only [Proxy.probe, ends, ok_bind, requestScopes_eq, pure_eq_ok, Except.ok.injEq] at ended
  exact ended.symm

variable {Site : Type}

/-- An entry of an answer is lost, or it shows its match, which then has neither scopes nor an endpoint. -/
def Shows (item : ProbeMatchT) (entry : Option WsdProbeMatchType) : Prop :=
  entry = none ∨ item.scopes = none ∧ item.endpoint = none ∧
    ∃ message, versionedRequest item = .ok message ∧ entry = some message

/-- The header of an answer relates to the header of its probe and names its own site's instance. -/
def Answers (instanceId : UInt32) (asked sent : SoapEnvHeader) : Prop :=
  asked.wsaMessageID.isEmpty = false ∧ ∃ number,
    Service.withoutMessageID sent =
      Service.expectedReply ⟨instanceId, number⟩ asked.wsaMessageID

/-- A heard call is what the decoder makes of an earlier one, and no announcement is refused. -/
def SaidBefore (earlier : List (Event Site)) : Event Site → Prop
  | .heard _ _ call => ∃ source header spoken,
      .said source header spoken ∈ earlier ∧ call = received spoken
  | .refused _ _ header =>
      (∃ source service found, .answered source service header found ∈ earlier) ∨
        ∃ source arg, .said source header (.probe arg) ∈ earlier
  | _ => True

/-- This event binds the service. -/
def Binds (site : Site) (service : Nat) : Event Site → Prop
  | .bound other number _ => other = site ∧ number = service
  | _ => False

/-- An answer comes right after its probe is heard.
The handler that its service is bound to gives its entries. -/
def AnswersProbe (instances : Site → UInt32) (earlier : List (Event Site)) : Event Site → Prop
  | .answered site service header found => ∃ source asked sent arg handler,
      .said source (some asked) (.probe arg) ∈ earlier ∧
      Latest (Binds site service) (.bound site service (some handler)) earlier ∧
      earlier.getLast? = some (.heard site service (.probe arg)) ∧
      header = some sent ∧ Answers (instances site) asked sent ∧
      List.Forall₂ Shows (handler.probe arg) found
  | _ => True

def Explains (instances : Site → UInt32) (earlier : List (Event Site)) (event : Event Site) : Prop :=
  SaidBefore earlier event ∧ AnswersProbe instances earlier event

/-- A packet carries what a caller said or what a service answered. -/
def FromTrace (trace : List (Event Site)) (packet : Packet Site) : Prop :=
  (∃ spoken, packet.message = encoded spoken ∧ Identified packet.header ∧
      .said packet.source packet.header spoken ∈ trace) ∨
    ∃ found service, packet.message = .probeMatches found ∧
      .answered packet.source service packet.header found ∈ trace

theorem FromTrace.mono {trace more : List (Event Site)} {packet : Packet Site}
    (recorded : FromTrace trace packet) : FromTrace (trace ++ more) packet := by
  rcases recorded with ⟨spoken, message, identified, said⟩ | ⟨found, service, message, answered⟩
  · exact Or.inl ⟨spoken, message, identified, List.mem_append_left _ said⟩
  · exact Or.inr ⟨found, service, message, List.mem_append_left _ answered⟩

/-- The trace accounts for the handlers, for the packets and for itself. -/
structure Recorded (instances : Site → UInt32) (network : Network Site) : Prop where
  statics : ∀ site, (network.processes site).statics.instanceId = instances site
  handlers : ∀ site service handler, network.handlers site service = some handler →
    Latest (Binds site service) (.bound site service (some handler)) network.trace
  packets : ∀ packet ∈ network.wire, FromTrace network.trace packet
  explained : Explained (Explains instances) network.trace

theorem initial_recorded (instances : Site → UInt32) : Recorded instances (initial instances) where
  statics _ := rfl
  handlers := by
    intro site service handler bound
    cases bound
  packets := by
    intro packet member
    cases member
  explained := Explained.nil

/-- A service hears the call of a message, and it answers a probe when it is bound. -/
theorem dispatchIncoming_encoded {handler : Option Handler} {surroundings : Service.Surroundings}
    {header : Option SoapEnvHeader} {spoken : HandlerCall} {state : Service.State}
    {outcome : Service.Outcome}
    (served : Service.dispatchIncoming handler surroundings header (encoded spoken).incoming state =
      .ok outcome) :
    outcome = ⟨soapUserError, Service.receive header state,
        handler.map fun _ => received spoken, none, false⟩ ∨
      ∃ arg bound asked body, spoken = .probe arg ∧ handler = some bound ∧ header = some asked ∧
        Service.decodedProbe body = arg ∧
        outcome = Service.probeOutcome bound surroundings asked body state := by
  cases spoken with
  | hello arg =>
      obtain ⟨decoded, read, ends⟩ :=
        Service.hello_eq handler (helloBody arg) (Service.receive header state)
      rw [helloArg_helloBody, Except.ok.injEq] at read
      subst read
      exact Or.inl (Except.ok.inj (served.symm.trans ends))
  | bye arg =>
      obtain ⟨decoded, read, ends⟩ :=
        Service.bye_eq handler (Proxy.byeBody arg) (Service.receive header state)
      rw [Proxy.byeArg_byeBody, receivedBye_arrived, Except.ok.injEq] at read
      subst read
      exact Or.inl (Except.ok.inj (served.symm.trans ends))
  | probe arg =>
      rcases Service.serve_probe_ok served with ⟨rfl, rfl⟩ | ⟨bound, asked, rfl, rfl, rfl⟩
      · exact Or.inl rfl
      · exact Or.inr ⟨arg, bound, asked, _, rfl, rfl, rfl, Proxy.decodedProbe_encoded arg, rfl⟩

/-- Matches of one reply show what each stored copy of them shows. -/
theorem shows_of_stored {Entry : Type} {serial : Nat} {items : ProbeMatchesT} {entries : List Entry}
    {stored : Matches.RequestObject → Entry → Prop} {shows : ProbeMatchT → Entry → Prop}
    (copies : List.Forall₂ stored (Matches.storedObjects serial items) entries)
    (each : ∀ serial item entry, stored (Matches.storedObject serial item) entry → shows item entry) :
    List.Forall₂ shows items entries := by
  induction items generalizing serial entries with
  | nil =>
      cases copies
      exact .nil
  | cons item rest ih =>
      cases copies with
      | cons first others => exact .cons (each serial item _ first) (ih others)

/-- A stored copy can be read only when nothing of it points to its temporary. -/
theorem storedObject_shows (matched : Matches) (location : Location) {serial : Nat}
    {item : ProbeMatchT}
    (read : matched.memory (.element location) = none ∨
      matched.memory (.element location) = some (Matches.storedObject serial item)) :
    Shows item ((matched.memory (.element location)).bind (Matches.readMessage matched.memory)) := by
  rcases read with stale | stored
  · exact Or.inl (by rw [stale]; rfl)
  · rw [stored, Option.bind_some]
    cases scopes : item.scopes with
    | some found =>
        left
        simp [Matches.readMessage, Matches.storedObject, Matches.requestObject, scopes, Matches.follow,
          Matches.memory]
    | none =>
        cases endpoint : item.endpoint with
        | some found =>
            left
            simp [Matches.readMessage, Matches.storedObject, Matches.requestObject, scopes, endpoint,
              Matches.follow, Matches.memory]
        | none =>
            right
            rw [Service.storedObject_plain scopes endpoint serial (.element location)] at stored ⊢
            exact ⟨scopes, endpoint, Matches.readMessage_in_place _ _ item stored⟩

/-- The entries of a reply show the matches of its handler. -/
theorem replyMatches_shows (matched : Matches) (items : ProbeMatchesT) (header : Option SoapEnvHeader) :
    List.Forall₂ Shows items (Service.Reply.messages
      ⟨header, (Service.replyMatches matched items).2, (Service.replyMatches matched items).1⟩) := by
  rw [Service.Reply.messages, List.forall₂_map_right_iff]
  apply shows_of_stored
    ((matched.vector.reserve items.length).pushAll_read
      (Matches.storedObjects matched.temporaries items))
  intro serial item location read
  exact storedObject_shows _ location read

/-- The reply to a probe answers the header that it came with. -/
theorem probeOutcome_answers (bound : Handler) (surroundings : Service.Surroundings)
    (asked : SoapEnvHeader) (body : WsdProbeType) (state : Service.State)
    (identified : asked.wsaMessageID.isEmpty = false) :
    ∃ reply sent, (Service.probeOutcome bound surroundings asked body state).reply = some reply ∧
      reply.header = some sent ∧ Answers state.wsa.statics.instanceId asked sent ∧
      List.Forall₂ Shows (bound.probe (Service.decodedProbe body)) reply.messages := by
  refine ⟨_, _, rfl, rfl, ⟨identified, state.wsa.statics.messageNumber, ?_⟩, ?_⟩
  · rfl
  · exact replyMatches_shows _ _ _

/-- A dispatched packet binds no service. -/
theorem dispatchEvents_binds {site other : Site} {service number : Nat} {header : Option SoapEnvHeader}
    {outcome : Service.Outcome} {event : Event Site}
    (member : event ∈ dispatchEvents site service header outcome) : ¬ Binds other number event := by
  rcases mem_dispatchEvents member with ⟨call, -, rfl⟩ | ⟨answer, found, rfl⟩ | rfl <;>
    exact not_false

/-- A bound service that answers a said probe adds explained events. -/
theorem dispatchEvents_explained {network : Network Site} {instances : Site → UInt32}
    {site source : Site} {service : Nat} {bound : Handler} {surroundings : Service.Surroundings}
    {asked : SoapEnvHeader} {body : WsdProbeType} {arg : ProbeT}
    (recorded : Recorded instances network)
    (handler : network.handlers site service = some bound)
    (said : .said source (some asked) (.probe arg) ∈ network.trace)
    (identified : asked.wsaMessageID.isEmpty = false)
    (decoded : Service.decodedProbe body = arg) :
    Explained (Explains instances)
      (network.trace ++ dispatchEvents site service (some asked)
        (Service.probeOutcome bound surroundings asked body
          ((network.processes site).serviceState service))) := by
  obtain ⟨reply, sent, replied, header, answers, shown⟩ := probeOutcome_answers bound surroundings
    asked body ((network.processes site).serviceState service) identified
  have instanceId : ((network.processes site).serviceState service).wsa.statics.instanceId =
      instances site := recorded.statics site
  rw [decoded] at shown
  rw [instanceId] at answers
  have heardFirst : Explained (Explains instances)
      (network.trace ++ [.heard site service (.probe arg)]) :=
    recorded.explained.concat ⟨⟨source, some asked, .probe arg, said, rfl⟩, trivial⟩
  have answeredNext : Explained (Explains instances)
      (network.trace ++ [.heard site service (.probe arg)] ++
        (replies (Service.probeOutcome bound surroundings asked body
          ((network.processes site).serviceState service))).map fun reply =>
            .answered site service reply.header reply.messages) := by
    rw [replies, replied]
    split
    · simp only [Option.toList_some, List.map_cons, List.map_nil]
      apply heardFirst.concat
      refine ⟨trivial, source, asked, sent, arg, bound, ?_, ?_, ?_, header, answers, shown⟩
      · exact List.mem_append_left _ said
      · exact (recorded.handlers site service bound handler).append (by simp [Binds])
      · simp
    · simpa using heardFirst
  have called : (Service.probeOutcome bound surroundings asked body
      ((network.processes site).serviceState service)).called = some (.probe arg) := by
    rw [← decoded]
    rfl
  rw [dispatchEvents, called, Option.toList_some, List.map_singleton, ← List.append_assoc,
    ← List.append_assoc]
  split
  · simpa using answeredNext
  · apply answeredNext.concat
    refine ⟨Or.inr ⟨source, arg, ?_⟩, trivial⟩
    exact List.mem_append_left _ (List.mem_append_left _ said)

variable [DecidableEq Site]

/-- A process that replaces its own one keeps the instances. -/
theorem instances_update {network : Network Site} {instances : Site → UInt32} {site : Site}
    {process : System} (recorded : Recorded instances network)
    (same : process.statics.instanceId = (network.processes site).statics.instanceId) (other : Site) :
    (Function.update network.processes site process other).statics.instanceId = instances other := by
  by_cases own : other = site
  · subst own
    rw [Function.update_self, same]
    exact recorded.statics other
  · rw [Function.update_of_ne own]
    exact recorded.statics other

/-- A proxy has sent the message of a call with the identifier that it has drawn. -/
def Said (network next : Network Site) (site : Site) (spoken : HandlerCall) (randoms : Wsa.Randoms) :
    Prop :=
  ∃ (Body A : Type) (proxy : Nat) (message : Body → Message) (call : Proxy.Call Body A),
    next = network.say site proxy spoken message call ∧
    message call.envelope.body = encoded spoken ∧ Carries randoms call.envelope.header ∧
    call.state.statics.instanceId = (network.processes site).statics.instanceId

theorem hello_said {what : Soap → String} {network next : Network Site} {site : Site} {proxy : Nat}
    {surroundings : Proxy.Surroundings} {arg : HelloT}
    (taken : step what network (.hello site proxy surroundings arg) = .ok next) :
    Said network next site (.hello arg) surroundings.request.randoms := by
  obtain ⟨call, ended, rfl⟩ := map_eq_ok.mp taken
  obtain ⟨state, body, announced, finished⟩ := Proxy.hello_ok ended
  obtain ⟨-, -, -, statics, -⟩ := Proxy.announceHeader_ends (by decide) announced
  refine ⟨_, _, proxy, _, call, rfl, ?_, ?_, ?_⟩
  · rw [hello_body ended]
    rfl
  · rw [← finished, Proxy.finish_envelope]
    exact sentHeader_carries (announceHeader_carries (by decide) announced)
  · rw [← finished, Proxy.finish_state, statics]
    rfl

theorem bye_said {what : Soap → String} {network next : Network Site} {site : Site} {proxy : Nat}
    {surroundings : Proxy.Surroundings} {arg : ByeT}
    (taken : step what network (.bye site proxy surroundings arg) = .ok next) :
    Said network next site (.bye arg) surroundings.request.randoms := by
  obtain ⟨call, ended, rfl⟩ := map_eq_ok.mp taken
  obtain ⟨state, body, announced, finished⟩ := Proxy.bye_ok ended
  obtain ⟨-, -, -, statics, -⟩ := Proxy.announceHeader_ends (by decide) announced
  refine ⟨_, _, proxy, _, call, rfl, ?_, ?_, ?_⟩
  · rw [Proxy.bye_body ended]
    rfl
  · rw [← finished, Proxy.finish_envelope]
    exact sentHeader_carries (announceHeader_carries (by decide) announced)
  · rw [← finished, Proxy.finish_state, statics]
    rfl

theorem probe_said {what : Soap → String} {network next : Network Site} {site : Site} {proxy : Nat}
    {surroundings : Proxy.Surroundings} {arg : ProbeT}
    (taken : step what network (.probe site proxy surroundings arg) = .ok next) :
    Said network next site (.probe arg) surroundings.request.randoms := by
  obtain ⟨call, ended, rfl⟩ := map_eq_ok.mp taken
  obtain ⟨state, rfl, statics, carries⟩ := probe_carries ended
  refine ⟨_, _, proxy, _, _, rfl, ?_, ?_, ?_⟩
  · rw [Proxy.finish_envelope]
    rfl
  · rw [Proxy.finish_envelope]
    exact sentHeader_carries carries
  · rw [Proxy.finish_state, statics]
    rfl

/-- A proxy call that sends what it was given keeps the record. -/
theorem Said.recorded {network next : Network Site} {instances : Site → UInt32} {site : Site}
    {spoken : HandlerCall} {randoms : Wsa.Randoms} (said : Said network next site spoken randoms)
    (recorded : Recorded instances network) : Recorded instances next := by
  obtain ⟨Body, A, proxy, message, call, rfl, encodes, carries, same⟩ := said
  constructor
  · exact instances_update recorded same
  · intro other service handler bound
    refine (recorded.handlers other service handler bound).append ?_
    intro later member
    split at member
    · cases List.mem_singleton.mp member
      exact not_false
    · cases member
  · intro packet member
    rcases List.mem_append.mp member with old | new
    · exact (recorded.packets packet old).mono
    · cases sent : call.sent with
      | false => simp [sent] at new
      | true =>
          simp only [sent, ↓reduceIte, List.mem_singleton] at new
          subst packet
          refine Or.inl ⟨spoken, encodes, carries.identified, ?_⟩
          simp [say, sent]
  · cases sent : call.sent with
    | false => simpa [say, sent] using recorded.explained
    | true =>
        have more := recorded.explained.concat (show Explains instances network.trace
          (.said site call.envelope.header spoken) from ⟨trivial, trivial⟩)
        simpa [say, sent] using more

theorem bind_recorded {network : Network Site} {instances : Site → UInt32} {site : Site} {service : Nat}
    {bound : Service.Bound} (recorded : Recorded instances network) :
    Recorded instances (network.bind site service bound) where
  statics := recorded.statics
  handlers := by
    intro other number handler found
    by_cases own : other = site ∧ number = service
    · obtain ⟨rfl, rfl⟩ := own
      simp only [bind, Function.update_self] at found
      rw [← found]
      exact Latest.concat network.trace
    · have kept : network.handlers other number = some handler := by
        rw [← found]
        simp only [bind, Function.update_apply]
        split
        · rename_i same
          subst same
          rw [Function.update_of_ne (fun equal => own ⟨rfl, equal⟩)]
        · rfl
      refine (recorded.handlers other number handler kept).append ?_
      intro later member
      rw [List.mem_singleton.mp member]
      exact fun same => own ⟨same.1.symm, same.2.symm⟩
  packets := fun packet member => (recorded.packets packet member).mono
  explained := recorded.explained.concat ⟨trivial, trivial⟩

/-- A dispatched packet keeps the record when its events are explained. -/
theorem hear_recorded {network : Network Site} {instances : Site → UInt32} {what : Soap → String}
    {site : Site} {service : Nat} {header : Option SoapEnvHeader} {outcome : Service.Outcome}
    (recorded : Recorded instances network)
    (same : outcome.state.wsa.statics.instanceId = (network.processes site).statics.instanceId)
    (explained : Explained (Explains instances)
      (network.trace ++ dispatchEvents site service header outcome)) :
    Recorded instances (network.hear site service header (Service.settle what outcome)) where
  statics := by
    apply instances_update recorded
    change (Service.settle what outcome).outcome.state.wsa.statics.instanceId = _
    rw [(Service.settle_outcome what outcome).2.2.2, same]
  handlers := by
    intro other number handler bound
    rw [hear_trace]
    exact (recorded.handlers other number handler bound).append fun later member =>
      dispatchEvents_binds member
  packets := by
    intro packet member
    rw [hear_trace]
    rcases List.mem_append.mp member with old | new
    · exact (recorded.packets packet old).mono
    · rw [replies_settle] at new
      obtain ⟨reply, sent, rfl⟩ := List.mem_map.mp new
      refine Or.inr ⟨reply.messages, service, rfl, ?_⟩
      simp only [dispatchEvents, List.mem_append]
      exact Or.inr (Or.inl (Or.inr (List.mem_map.mpr ⟨reply, sent, rfl⟩)))
  explained := hear_trace network what site service header outcome ▸ explained

/-- A delivered packet that is on the wire keeps the record. -/
theorem deliver_recorded {network : Network Site} {instances : Site → UInt32} {what : Soap → String}
    {site : Site} {service : Nat} {surroundings : Service.Surroundings} {packet : Packet Site}
    {outcome : Service.Outcome} (recorded : Recorded instances network)
    (onWire : packet ∈ network.wire)
    (served : Service.dispatchIncoming (network.handlers site service) surroundings packet.header
      packet.message.incoming ((network.processes site).serviceState service) = .ok outcome) :
    Recorded instances
      (network.hear site service packet.header (Service.settle what outcome)) := by
  rcases recorded.packets packet onWire with
    ⟨spoken, message, identified, said⟩ | ⟨found, sender, message, answered⟩
  · rw [message] at served
    rcases dispatchIncoming_encoded served with
      rfl | ⟨arg, bound, asked, body, rfl, handler, header, decoded, rfl⟩
    · apply hear_recorded recorded rfl
      cases network.handlers site service with
      | none => simpa [dispatchEvents, replies] using recorded.explained
      | some bound =>
          exact recorded.explained.concat
            ⟨⟨packet.source, packet.header, spoken, said, rfl⟩, trivial⟩
    · apply hear_recorded recorded rfl
      rw [header] at said ⊢
      exact dispatchEvents_explained recorded handler said (identified asked header) decoded
  · rw [message] at served
    obtain rfl := Except.ok.inj served
    apply hear_recorded recorded rfl
    exact recorded.explained.concat
      ⟨Or.inl ⟨packet.source, sender, found, answered⟩, trivial⟩

/-- One step keeps the record. -/
theorem step_recorded {instances : Site → UInt32} {what : Soap → String} (network : Network Site)
    (action : Action Site) (next : Network Site) (recorded : Recorded instances network)
    (taken : step what network action = .ok next) : Recorded instances next := by
  cases action with
  | hello site proxy surroundings arg => exact (hello_said taken).recorded recorded
  | bye site proxy surroundings arg => exact (bye_said taken).recorded recorded
  | probe site proxy surroundings arg => exact (probe_said taken).recorded recorded
  | bind site service sockets obj port =>
      obtain rfl := Except.ok.inj taken
      exact bind_recorded recorded
  | deliver position site service surroundings =>
      simp only [step] at taken
      split at taken
      · obtain rfl := Except.ok.inj taken
        exact recorded
      · rename_i packet found
        obtain ⟨dispatched, dispatches, rfl⟩ := map_eq_ok.mp taken
        obtain ⟨outcome, served, rfl⟩ := map_eq_ok.mp dispatches
        exact deliver_recorded recorded (List.mem_of_getElem? found) served

theorem run_recorded {instances : Site → UInt32} {what : Soap → String} {actions : List (Action Site)}
    {final : Network Site} (completed : run (step what) (initial instances) actions = .ok final) :
    Recorded instances final :=
  run_preserves step_recorded (initial_recorded instances) completed

/-- No service hears or refuses anything that a network of these programs did not send. -/
theorem run_saidBefore (instances : Site → UInt32) (what : Soap → String)
    (actions : List (Action Site)) (final : Network Site)
    (completed : run (step what) (initial instances) actions = .ok final) :
    Explained SaidBefore final.trace := by
  exact (run_recorded completed).explained.imp fun _ _ explained => explained.1

/-- Every answer on the network follows one heard probe and relates to it. -/
theorem run_answersProbe (instances : Site → UInt32) (what : Soap → String)
    (actions : List (Action Site)) (final : Network Site)
    (completed : run (step what) (initial instances) actions = .ok final) :
    Explained (AnswersProbe instances) final.trace := by
  exact (run_recorded completed).explained.imp fun _ _ explained => explained.2

theorem run_saidBefore_sample :
    ∃ final, run (step fun _ => "") (initial sampleInstances) sampleActions = .ok final ∧
      Explained SaidBefore final.trace := by
  have supplied : Every (step fun _ => "") Supplied (initial sampleInstances) sampleActions :=
    every_supplied rfl
  obtain ⟨final, completed, -⟩ :=
    run_completes (step_supplied fun _ => "") (initial_headed sampleInstances) supplied
  exact ⟨final, completed, run_saidBefore sampleInstances _ sampleActions final completed⟩

theorem run_answersProbe_sample :
    ∃ final, run (step fun _ => "") (initial sampleInstances) sampleActions = .ok final ∧
      Explained (AnswersProbe sampleInstances) final.trace := by
  have supplied : Every (step fun _ => "") Supplied (initial sampleInstances) sampleActions :=
    every_supplied rfl
  obtain ⟨final, completed, -⟩ :=
    run_completes (step_supplied fun _ => "") (initial_headed sampleInstances) supplied
  exact ⟨final, completed, run_answersProbe sampleInstances _ sampleActions final completed⟩

end Onvifxx.Network
