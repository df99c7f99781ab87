/-
# Which server the tunnel is built for

`generate_parameter` takes the first row of the session table, marked or not. It
therefore answers with the server of a session that became ready exactly if the
first row names that server, too. Rows of sessions that ended stay in front of
newer rows until their end-session calls succeed.
-/

import Modvpn.Analysis.AddressText
import Modvpn.Analysis.Daemon.ChannelStep
import Modvpn.Daemon.ParameterGenerator

namespace Modvpn

open Modvpn.Protocol
open Entity (VpnSession)

/-- What the parameters take from the session table. -/
structure Server where
  publicKey : Key
  endpoint : SocketAddr
  ipv4Gateway : Ipv4Addr
  deriving DecidableEq

/-- The server of generated parameters. -/
def TunnelParameters.server (parameters : TunnelParameters) : Server where
  publicKey := parameters.connection.peer.publicKey
  endpoint := parameters.connection.peer.endpoint
  ipv4Gateway := parameters.connection.ipv4Gateway

namespace ParameterGenerator

variable {codecs : Codecs}

/-- The server a row names, if its columns are set and well formed. -/
def server (codecs : Codecs) (row : VpnSession) : Option Server := do
  let publicKey ← (codecs.publicKey (← row.serverPublicKey)).toOption
  let endpoint ← SocketAddr.parse (← row.serverIpv4Endpoint)
  let ipv4Gateway ← Ipv4Addr.parse (← row.serverPrivateIpv4)
  return { publicKey, endpoint, ipv4Gateway }

@[simp]
theorem toOption_okOr {α : Type} (value : Option α) (message : String) :
    (okOr value message).toOption = value := by
  cases value <;> rfl

@[simp]
theorem toOption_mapError {α ε ε' : Type} (f : ε → ε') (result : Except ε α) :
    (result.mapError f).toOption = result.toOption := by
  cases result <;> rfl

@[simp]
theorem toOption_bind {α β ε : Type} (result : Except ε α) (rest : α → Except ε β) :
    (result >>= rest).toOption = result.toOption.bind fun value => (rest value).toOption := by
  cases result <;> rfl

theorem server_assemble {row : VpnSession} {deviceDetails : DeviceDetails}
    (haddresses : deviceDetails.wireguardMeta.deviceAddresses ≠ none) :
    (assemble codecs row deviceDetails).toOption.map TunnelParameters.server =
      server codecs row := by
  obtain ⟨addresses, haddresses⟩ := Option.ne_none_iff_exists'.mp haddresses
  simp only [assemble, server, haddresses, toOption_bind, toOption_okOr, toOption_mapError,
    Option.bind_some, Option.map_bind, Option.bind_eq_bind, Function.comp_def]
  rfl

end ParameterGenerator

/-! ## Asking for parameters -/

namespace World

variable {codecs : Codecs} {world : World} {env : Env}

/-- The device can be read and has an address. -/
def HasAddress (codecs : Codecs) (world : World) : Prop :=
  ∃ device deviceDetails, world.device.head? = some device ∧
    DeviceDetails.tryFrom codecs device = .ok deviceDetails ∧
    deviceDetails.wireguardMeta.deviceAddresses ≠ none

/-- Asked for parameters, the daemon answers with those of this server. -/
def BuildsFor (codecs : Codecs) (server : Server) (world : World) : Prop :=
  ∀ env : Env, env.dbErr = none → ∃ parameters target,
    (ParameterGenerator.generateParameter codecs).run.run semantics (fun _ => env) world =
        .returned (.ok parameters) target ∧ parameters.server = server

/-- This row is unmarked and holds what the server reported when it became ready. -/
structure IsReadyFor (serverReady : ServerReady) (row : VpnSession) (rows : List VpnSession) :
    Prop where
  mem : row ∈ VpnSession.unmarked rows
  requestId : row.requestId = serverReady.requestId.toText
  publicKey : row.serverPublicKey = some serverReady.publicKey
  endpoint : row.serverIpv4Endpoint = some serverReady.ipv4Endpoint.toText
  privateIpv4 : row.serverPrivateIpv4 = some serverReady.privateIpv4.toText

/-- The server a report speaks of, if its key and its endpoint are well formed. -/
structure Names (codecs : Codecs) (serverReady : ServerReady) (server : Server) : Prop where
  publicKey : codecs.publicKey serverReady.publicKey = .ok server.publicKey
  endpoint : server.endpoint = serverReady.ipv4Endpoint
  endpointText : SocketAddr.parse serverReady.ipv4Endpoint.toText = some serverReady.ipv4Endpoint
  ipv4Gateway : server.ipv4Gateway = serverReady.privateIpv4

theorem IsReadyFor.server_row {serverReady : ServerReady} {row : VpnSession}
    {rows : List VpnSession} {server : Server} (hready : IsReadyFor serverReady row rows)
    (hnames : Names codecs serverReady server) :
    ParameterGenerator.server codecs row = some server := by
  cases server
  obtain ⟨hkey, rfl, htext, rfl⟩ := hnames
  simp [ParameterGenerator.server, hready.publicKey, hready.endpoint, hready.privateIpv4,
    hkey, htext, Ipv4Addr.parse_toText, Except.toOption]

theorem generateParameter_run (hdb : env.dbErr = none) (haddress : world.HasAddress codecs) :
    ∃ result, (ParameterGenerator.generateParameter codecs).run.run semantics (fun _ => env)
        world = .returned result world ∧
      result.toOption.map TunnelParameters.server =
        world.vpnSession.head?.bind (ParameterGenerator.server codecs) := by
  obtain ⟨device, deviceDetails, hdevice, hdetails, haddresses⟩ := haddress
  cases hfirst : world.vpnSession.head? with
  | none =>
      refine ⟨.error "no vpn session found during parameter generation", ?_, rfl⟩
      simp [ParameterGenerator.generateParameter, perform, World.answer, World.statement, hdb,
        hfirst, ParameterGenerator.okOr]
  | some first =>
      refine ⟨ParameterGenerator.assemble codecs first deviceDetails, ?_,
        ParameterGenerator.server_assemble haddresses⟩
      simp [ParameterGenerator.generateParameter, perform, World.answer, World.statement, hdb,
        hfirst, hdevice, hdetails, ParameterGenerator.okOr]

/-- Asked while the row of a session that became ready is still unmarked, the
daemon answers with the parameters of its server exactly if the first row of the
table names the same server. -/
theorem buildsFor_iff {serverReady : ServerReady} {row : VpnSession} {server : Server}
    (hready : IsReadyFor serverReady row world.vpnSession)
    (hnames : Names codecs serverReady server) (haddress : world.HasAddress codecs) :
    world.BuildsFor codecs server ↔ ∃ first, world.vpnSession.head? = some first ∧
      ParameterGenerator.server codecs first = ParameterGenerator.server codecs row := by
  rw [hready.server_row hnames, ← Option.bind_eq_some_iff]
  constructor
  · intro h
    have hdb : Sample.first.dbErr = none := rfl
    obtain ⟨parameters, target, hrun, hserver⟩ := h Sample.first hdb
    obtain ⟨result, hresult, hfirst⟩ := generateParameter_run hdb haddress
    rw [hrun] at hresult
    cases hresult
    rw [← hfirst, ← hserver]
    rfl
  · intro hfirst env hdb
    obtain ⟨result, hrun, hresult⟩ := generateParameter_run hdb haddress
    rw [hfirst, Option.map_eq_some_iff] at hresult
    obtain ⟨parameters, hparameters, hserver⟩ := hresult
    cases result with
    | error message => cases hparameters
    | ok value =>
        cases hparameters
        exact ⟨parameters, world, hrun, hserver⟩

end World

/-! ## Ready rows from event to event -/

namespace SessionView

open World

variable {env : Env} {view next : SessionView} {event : DaemonEvent}
  {serverReady : ServerReady} {row : VpnSession}

/-- The command to connect is sent for a row that holds the server's report. -/
theorem Handles.isReadyFor
    (hnext : Handles env view (.vpnSessionStatus (.serverReady serverReady)) next)
    (hsent : next.commands ≠ view.commands) :
    ∃ row, IsReadyFor serverReady row next.rows := by
  cases hnext with
  | dropped => exact absurd rfl hsent
  | updated _ row set hrow hset =>
      obtain ⟨hmem, hid⟩ := VpnSession.mem_of_currentById hrow
      cases hset
      exact ⟨_, VpnSession.patch_mem_unmarked (VpnSession.mem_unmarked.mpr hmem) _, hid, rfl,
        rfl, rfl⟩
  | deleted _ row hrow hset => cases hset

/-- An update that writes neither the mark nor what the server reported. -/
theorem isReadyFor_updateById {rows : List VpnSession} {requestId : String}
    {set : VpnSession → VpnSession} (hready : IsReadyFor serverReady row rows)
    (hset : row.requestId = requestId → IsReadyFor serverReady (set row) [set row]) :
    ∃ row, IsReadyFor serverReady row (VpnSession.updateById requestId set rows) := by
  obtain ⟨hmem, hunmarked⟩ := VpnSession.mem_unmarked.mp hready.mem
  by_cases hid : row.requestId = requestId
  · refine ⟨set row, { hset hid with mem := ?_ }⟩
    rw [VpnSession.mem_unmarked]
    refine ⟨List.mem_map.mpr ⟨row, hmem, by simp [hid]⟩, ?_⟩
    exact (VpnSession.mem_unmarked.mp (hset hid).mem).2
  · refine ⟨row, { hready with mem := ?_ }⟩
    rw [VpnSession.mem_unmarked]
    exact ⟨List.mem_map.mpr ⟨row, hmem, by simp [hid]⟩, hunmarked⟩

theorem isReadyFor_markCurrent {rows : List VpnSession}
    (hready : IsReadyFor serverReady row rows)
    (hstays : ∃ other ∈ VpnSession.unmarked (VpnSession.markCurrent rows),
      other.requestId = row.requestId) :
    ∃ row, IsReadyFor serverReady row (VpnSession.markCurrent rows) := by
  obtain ⟨stays, hstays, hid⟩ := hstays
  unfold VpnSession.markCurrent at hstays ⊢
  split at hstays
  · exact ⟨row, hready⟩
  · rw [VpnSession.unmarked_updateById_mark] at hstays
    have hother := (List.mem_filter.mp hstays).2
    rw [hid] at hother
    exact isReadyFor_updateById hready fun hsame => by simp [hsame] at hother

/-- From event to event the row holds what its server reported, until it is
claimed or deleted or the server reports again. -/
theorem Handles.isReadyFor_of_mem (hnext : Handles env view event next)
    (hready : IsReadyFor serverReady row view.rows)
    (hstays : ∃ other ∈ VpnSession.unmarked next.rows, other.requestId = row.requestId)
    (hnews : ∀ later, event = .vpnSessionStatus (.serverReady later) →
      later.requestId ≠ serverReady.requestId) :
    ∃ row, IsReadyFor serverReady row next.rows := by
  obtain ⟨hmem, hunmarked⟩ := VpnSession.mem_unmarked.mp hready.mem
  cases hnext with
  | accepted location accepted =>
      have hadded : IsReadyFor serverReady row
          (view.rows ++ [VpnSession.requested env.uuid location]) :=
        { hready with mem := by simp [hmem, hunmarked] }
      exact isReadyFor_updateById hadded fun _ =>
        { hready with mem := by simp [hunmarked] }
  | disconnect | shutdown | tunnelError => exact isReadyFor_markCurrent hready hstays
  | updated status other set hrow hset =>
      cases status with
      | serverReady later =>
          refine isReadyFor_updateById hready fun hid => ?_
          have hother := (VpnSession.mem_of_currentById hrow).2
          rw [← hid, hready.requestId] at hother
          exact absurd (Uuid.toText_injective hother).symm (hnews later rfl)
      | accepted | serverCreated | serverRunning | clientConnected =>
          cases hset
          exact isReadyFor_updateById hready fun _ =>
            { hready with mem := by simp [hunmarked] }
      | failed | ended => cases hset
  | tunnelConnected other info hrow hinfo =>
      exact isReadyFor_updateById hready fun _ =>
        { hready with mem := by simp [hunmarked] }
  | deleted status other hrow hset =>
      obtain ⟨stays, hstays, hid⟩ := hstays
      rw [VpnSession.unmarked_deleteById] at hstays
      have hother := (List.mem_filter.mp hstays).2
      refine ⟨row, { hready with mem := ?_ }⟩
      rw [VpnSession.unmarked_deleteById]
      exact List.mem_filter.mpr ⟨hready.mem, by rwa [hid] at hother⟩
  | _ => exact ⟨row, hready⟩

end SessionView

/-! ## With one session and with two -/

namespace Sample

/-- The row of a session whose server is ready. -/
def readyRow (requestId vpnSessionUuid : Uuid) : VpnSession :=
  ((VpnSession.requested requestId location).setAccepted vpnSessionUuid).patch
    { serverStatus := some StorageServerStatus.serverReady.toText
      serverIpv4Endpoint := some (serverReady requestId vpnSessionUuid).ipv4Endpoint.toText
      serverPrivateIpv4 := some (serverReady requestId vpnSessionUuid).privateIpv4.toText
      serverPublicKey := some (serverReady requestId vpnSessionUuid).publicKey }

def server : Server where
  publicKey := .replicate 32 255
  endpoint := .v4 ⟨192, 0, 2, 1⟩ 51820
  ipv4Gateway := ⟨10, 0, 0, 1⟩

theorem isReadyFor {requestId vpnSessionUuid : Uuid} {rows : List VpnSession}
    (hmem : readyRow requestId vpnSessionUuid ∈ rows) :
    World.IsReadyFor (serverReady requestId vpnSessionUuid)
      (readyRow requestId vpnSessionUuid) rows :=
  ⟨VpnSession.mem_unmarked.mpr ⟨hmem, rfl⟩, rfl, rfl, rfl, rfl⟩

theorem names (requestId vpnSessionUuid : Uuid) :
    World.Names codecs (serverReady requestId vpnSessionUuid) server :=
  ⟨by simp [codecs, serverReady, server], rfl, SocketAddr.parse_toText_v4 .., rfl⟩

theorem hasAddress {world : World} (hdevice : world.device = [device]) :
    world.HasAddress codecs := by
  have hread : (DeviceDetails.tryFrom codecs device).toOption.any
      (·.wireguardMeta.deviceAddresses.isSome) = true := by decide +kernel
  cases hdetails : DeviceDetails.tryFrom codecs device with
  | error message => simp [hdetails, Except.toOption] at hread
  | ok deviceDetails =>
      refine ⟨device, deviceDetails, by simp [hdevice], hdetails, ?_⟩
      simpa [hdetails, Except.toOption, Option.isSome_iff_ne_none] using hread

end Sample

namespace World

open Channel

/-- The tunnel of the only session is built for its server. -/
theorem exists_buildsFor : ∃ channel, system.Reachable channel ∧
    channel.world.tunnelCommands = [.connect] ∧
      channel.world.BuildsFor Sample.codecs Sample.server := by
  obtain ⟨channel, trace, -, hcheck⟩ := system.exists_trace_of_run (fun _ _ => True) Sample.init
    (Sample.connecting Sample.first (.replicate 1))
    (fun channel => channel.world.device = [Sample.device] ∧
      channel.world.vpnSession = [Sample.readyRow (.replicate 10) (.replicate 1)] ∧
      channel.world.tunnelCommands = [.connect]) (by decide +kernel)
  obtain ⟨hdevice, hrows, hcommands⟩ := of_decide_eq_true hcheck
  refine ⟨channel, ⟨trace⟩, hcommands, ?_⟩
  have hmem : Sample.readyRow (.replicate 10) (.replicate 1) ∈ channel.world.vpnSession := by
    simp [hrows]
  exact (buildsFor_iff (Sample.isReadyFor hmem) (Sample.names ..)
    (Sample.hasAddress hdevice)).mpr ⟨_, by rw [hrows]; rfl, rfl⟩

/-- A session that ended keeps its row until its end-session call succeeds. The
next session becomes ready, and its tunnel is refused the parameters, because they
are looked up in the older row. -/
theorem not_forall_buildsFor :
    ¬ ∀ channel, system.Reachable channel → ∀ serverReady row server,
      IsReadyFor serverReady row channel.world.vpnSession →
      Names Sample.codecs serverReady server → channel.world.HasAddress Sample.codecs →
        channel.world.BuildsFor Sample.codecs server := by
  intro h
  obtain ⟨channel, trace, -, hcheck⟩ := system.exists_trace_of_run (fun _ _ => True) Sample.init
    ([.post (.command (.connect Sample.location)), .handle Sample.first,
        .post (.command .disconnect), .handle Sample.first] ++
      Sample.connecting Sample.second (.replicate 2))
    (fun channel => channel.world.device = [Sample.device] ∧
      channel.world.vpnSession.head?.bind (ParameterGenerator.server Sample.codecs) = none ∧
      Sample.readyRow (.replicate 11) (.replicate 2) ∈ channel.world.vpnSession ∧
      channel.world.tunnelCommands = [.connect]) (by decide +kernel)
  obtain ⟨hdevice, hfirst, hmem, -⟩ := of_decide_eq_true hcheck
  have haddress := Sample.hasAddress hdevice
  have hdb : Sample.first.dbErr = none := rfl
  obtain ⟨parameters, target, hrun, -⟩ := h channel ⟨trace⟩ _ _ _ (Sample.isReadyFor hmem)
    (Sample.names ..) haddress Sample.first hdb
  obtain ⟨result, hresult, hserver⟩ := generateParameter_run hdb haddress
  rw [hrun] at hresult
  cases hresult
  rw [hfirst] at hserver
  cases hserver

end World

end Modvpn
