/-
# The daemon loop, its channel, and the tunnel

The loop takes events from one FIFO channel and handles each to the end. Users,
watchers and signals post events at any time; the tunnel state machine reads the
commands it was sent, in order, and posts its transitions when it likes. Database
statements succeed here. Background tasks appear only through what they can do to
the session table: delete a row that is marked.

The tunnel state machine is outside the repository. Its phases and moves are the
documented ones, with everything it may do on its own left open: reconnect, give
up, recover, and say or not say that it is already disconnected.

Two things are recorded that the program does not know. Every command and every
transition carries the request whose server became ready and so caused it, and
`expectUp` tells whether the last command was to connect and the tunnel has
since then reported neither `Disconnected` nor `Error`.
-/

import Modvpn.Daemon.SessionView
import Modvpn.Protocol.TransitionSystem

namespace Modvpn

open Modvpn.Protocol
open Entity (VpnSession)

/-! ## The tunnel state machine -/

inductive TunnelPhase
  | disconnected
  | connecting
  | connected
  | disconnecting (after : ActionAfterDisconnect)
  | error
  deriving DecidableEq

/-- What the tunnel does next. -/
inductive TunnelMove
  /-- Read the next command; `verbose` is whether a tunnel that is down confirms it. -/
  | take (verbose : Bool)
  | established
  /-- Take the tunnel down without being told to. -/
  | drop (after : ActionAfterDisconnect)
  | fail (errorState : ErrorState)
  /-- Complete a disconnect. -/
  | finish (errorState : ErrorState)
  | recover
  deriving DecidableEq

/-- Something said on behalf of a request. -/
structure Tagged (α : Type) where
  content : α
  owner : Option Uuid
  deriving DecidableEq

structure Tunnel where
  phase : TunnelPhase
  /-- The request the tunnel was last built for. -/
  owner : Option Uuid
  /-- The request the tunnel is built for after a disconnect that reconnects. -/
  successor : Option Uuid
  inbox : List (Tagged TunnelCommand)
  deriving DecidableEq

namespace Tunnel

def new : Tunnel where
  phase := .disconnected
  owner := none
  successor := none
  inbox := []

/-- Enter a phase and report it on behalf of the owner. -/
def enter (tunnel : Tunnel) (phase : TunnelPhase) (transition : TunnelStateTransition) :
    Tunnel × List (Tagged TunnelStateTransition) :=
  ({ tunnel with phase }, [⟨transition, tunnel.owner⟩])

def onConnect (owner : Option Uuid) (tunnel : Tunnel) :
    Tunnel × List (Tagged TunnelStateTransition) :=
  match tunnel.phase with
  | .disconnected | .error => { tunnel with owner }.enter .connecting .connecting
  | .connecting | .connected =>
      { tunnel with successor := owner }.enter (.disconnecting .reconnect)
        (.disconnecting .reconnect)
  | .disconnecting _ =>
      ({ tunnel with phase := .disconnecting .reconnect, successor := owner }, [])

def onDisconnect (verbose : Bool) (tunnel : Tunnel) :
    Tunnel × List (Tagged TunnelStateTransition) :=
  match tunnel.phase with
  | .disconnected => if verbose then tunnel.enter .disconnected .disconnected else (tunnel, [])
  | .connecting | .connected =>
      tunnel.enter (.disconnecting .nothing) (.disconnecting .nothing)
  | .disconnecting _ => ({ tunnel with phase := .disconnecting .nothing }, [])
  | .error =>
      if verbose then tunnel.enter (.disconnecting .nothing) (.disconnecting .nothing)
      else tunnel.enter .disconnected .disconnected

/-- The outcome of a move and the transitions it reports. -/
def move (tunnel : Tunnel) : TunnelMove → Option (Tunnel × List (Tagged TunnelStateTransition))
  | .take verbose =>
      match tunnel.inbox with
      | [] => none
      | ⟨.connect, owner⟩ :: rest => some ({ tunnel with inbox := rest }.onConnect owner)
      | ⟨.disconnect, _⟩ :: rest => some ({ tunnel with inbox := rest }.onDisconnect verbose)
  | .established =>
      if tunnel.phase = .connecting then some (tunnel.enter .connected .connected) else none
  | .drop after =>
      if tunnel.phase ∈ [.connecting, .connected] ∧ after ≠ .nothing then
        some ({ tunnel with successor := tunnel.owner }.enter (.disconnecting after)
          (.disconnecting after))
      else none
  | .fail errorState =>
      if tunnel.phase ∈ [.connecting, .connected] then
        some (tunnel.enter .error (.error errorState))
      else none
  | .finish errorState =>
      match tunnel.phase with
      | .disconnecting .nothing => some (tunnel.enter .disconnected .disconnected)
      | .disconnecting .block => some (tunnel.enter .error (.error errorState))
      | .disconnecting .reconnect =>
          some ({ tunnel with owner := tunnel.successor }.enter .connecting .connecting)
      | _ => none
  | .recover =>
      if tunnel.phase = .error then some (tunnel.enter .connecting .connecting) else none

end Tunnel

/-! ## The system -/

inductive LoopStatus
  | running
  | stopped
  | panicked
  deriving DecidableEq

structure Channel where
  world : World
  queue : List (Tagged DaemonEvent)
  tunnel : Tunnel
  loop : LoopStatus
  expectUp : Bool

inductive ChannelLabel
  /-- A user, a watcher or a signal posts an event. -/
  | post (event : DaemonEvent)
  | tunnel (move : TunnelMove)
  /-- The loop handles the first event. -/
  | handle (env : Env)
  /-- A background task deletes a marked row. -/
  | forget (requestId : String)

namespace Channel

/-- The request a command sent while handling an event is about. -/
def cause : DaemonEvent → Option Uuid
  | .vpnSessionStatus status => some (VpnSessionStorage.getSessionInfo status).requestId
  | _ => none

/-- Whether these reports end the expectation that the tunnel is up. -/
def reportsDown (reports : List (Tagged TunnelStateTransition)) : Bool :=
  reports.any fun report =>
    match report.content with
    | .disconnected | .error _ => true
    | _ => false

/-- The expectation after these commands were sent. -/
def expectAfter (expectUp : Bool) (sent : List TunnelCommand) : Bool :=
  match sent.getLast? with
  | some .connect => true
  | some .disconnect => false
  | none => expectUp

/-- The handler of the first event ran to its end. -/
def handled (channel : Channel) (event : DaemonEvent) (rest : List (Tagged DaemonEvent))
    (world : World) : Channel :=
  let sent := world.tunnelCommands.drop channel.world.tunnelCommands.length
  { world
    queue := rest
    tunnel :=
      { channel.tunnel with
        inbox := channel.tunnel.inbox ++ sent.map fun command => ⟨command, cause event⟩ }
    loop := if event = .shutdown then .stopped else channel.loop
    expectUp := expectAfter channel.expectUp sent }

def step (channel : Channel) : ChannelLabel → Option Channel
  | .post (.tunnelStateTransition _) => none
  | .post event => some { channel with queue := channel.queue ++ [⟨event, none⟩] }
  | .tunnel move =>
      match channel.tunnel.move move with
      | none => none
      | some (tunnel, reports) => some { channel with
          tunnel
          queue := channel.queue ++ reports.map fun report =>
            ⟨.tunnelStateTransition report.content, report.owner⟩
          expectUp := channel.expectUp && !reportsDown reports }
  | .handle env =>
      match channel.loop, channel.queue with
      | .running, ⟨event, _⟩ :: rest =>
          match (Daemon.handleEvent event).run semantics (fun _ => env.dbSucceeds)
              channel.world with
          | .returned () world => some (channel.handled event rest world)
          | .panicked _ world => some { channel with world, queue := rest, loop := .panicked }
      | _, _ => none
  | .forget requestId =>
      if channel.world.vpnSession.all fun row =>
          row.requestId ≠ requestId || row.markForDeletion then
        some { channel with world := { channel.world with
          vpnSession := VpnSession.deleteById requestId channel.world.vpnSession } }
      else none

/-- A daemon that has just been created: every old row is marked. -/
structure Init (channel : Channel) : Prop where
  wellFormed : ∀ row ∈ channel.world.vpnSession, row.WellFormed
  marked : ∀ row ∈ channel.world.vpnSession, row.markForDeletion = true
  device : ∃ uniqueId : Uuid,
    channel.world.device.head?.map (·.uniqueId) = some uniqueId.toText
  state : channel.world.state = .new
  tunnelCommands : channel.world.tunnelCommands = []
  queue : channel.queue = []
  tunnel : channel.tunnel = .new
  loop : channel.loop = .running
  expectUp : channel.expectUp = false

/-- The daemon loop with its channel and the tunnel. -/
def system : TransitionSystem Channel ChannelLabel where
  Init := Init
  step := step

/-! ## A new installation -/

/-- A daemon that was created for this device and has no session on record. -/
def created (device : Entity.Device) : Channel where
  world :=
    { vpnSession := []
      device := [device]
      token := [{ id := 1, token := "token" }]
      tokenSequence := 1
      recentLocations := []
      recentSequence := 0
      state := .new
      serviceToken := some "token"
      deviceCommands := []
      spawned := []
      broadcasts := []
      responses := []
      tunnelCommands := []
      history := []
      live := none }
  queue := []
  tunnel := .new
  loop := .running
  expectUp := false

theorem init_created (uniqueId : Uuid) (device : Entity.Device)
    (h : device.uniqueId = uniqueId.toText) : Init (created device) where
  wellFormed := by simp [created]
  marked := by simp [created]
  device := ⟨uniqueId, by simp [created, h]⟩
  state := rfl
  tunnelCommands := rfl
  queue := rfl
  tunnel := rfl
  loop := rfl
  expectUp := rfl

end Channel

/-! ## A device and a server to run against -/

namespace Sample

def device : Entity.Device where
  uniqueId := (Uuid.replicate 13).toText
  name := "laptop"
  version := "1"
  arch := "x86_64"
  deviceType := "linux"
  privateKey := "AAAAAAAAAAAAAAAAAAAAAAAAAAAAAAAAAAAAAAAAAAA="
  ipv4Address := some "10.0.0.2"
  createdAt := "2024-01-01T00:00:00Z"

/-- Readers and writers that know the texts of the sample device and its server. -/
def codecs : Codecs where
  wireguardMeta privateKey ipv4Address :=
    if privateKey = device.privateKey then .ok {
      privateKey := .replicate 32 0
      deviceAddresses := (ipv4Address.bind Ipv4Addr.parse).map DeviceAddresses.mk }
    else .error "invalid key"
  createdAt text :=
    if text = device.createdAt then
      .ok { timestamp := 1704067200, nanos := 0, nanos_lt := by decide }
    else .error "input contains invalid characters"
  createdAtText _ := device.createdAt
  privateKeyText _ := device.privateKey
  publicKey text :=
    if text = "//////////////////////////////////////////8=" then .ok (.replicate 32 255)
    else .error "InvalidKey"

def location : Location where
  code := "ams"
  country := "Netherlands"
  countryCode := "nl"
  city := "Amsterdam"
  cityCode := "ams"
  state := none
  stateCode := none
  estimate := none

/-- What the sample device is created from. -/
def deviceDetails : DeviceDetails where
  name := "laptop"
  version := "1"
  arch := "x86_64"
  uniqueId := .replicate 13
  deviceType := .linux
  wireguardMeta := { privateKey := .replicate 32 0, deviceAddresses := none }
  createdAt := { timestamp := 1704067200, nanos := 0, nanos_lt := by decide }

/-- Everything works, and the server accepts this request as this session. -/
def accepting (requestId vpnSessionUuid : Uuid) : Env where
  dbErr := none
  uuid := requestId
  now := { timestamp := 0, nanos := 0, nanos_lt := by decide }
  newSession := .ok { requestId, vpnSessionUuid }
  endSession := .ok { requestId, vpnSessionUuid, reason := "client requested" }
  endSessionRetries := []
  clientConnected := .ok ()
  createNew := .ok deviceDetails
  connect := .ok ()
  addDevice := .ok { token := "token", deviceAddresses := ⟨⟨10, 0, 0, 2⟩⟩ }
  signOut := .ok ()

def serverReady (requestId vpnSessionUuid : Uuid) : ServerReady where
  requestId
  vpnSessionUuid
  publicKey := "//////////////////////////////////////////8="
  ipv4Endpoint := .v4 ⟨192, 0, 2, 1⟩ 51820
  privateIpv4 := ⟨10, 0, 0, 1⟩

/-- The server of this session is ready. -/
def ready (requestId vpnSessionUuid : Uuid) : VpnSessionStatus :=
  .serverReady (serverReady requestId vpnSessionUuid)

/-- The first session of a run, and the second. -/
def first : Env := accepting (.replicate 10) (.replicate 1)

def second : Env := accepting (.replicate 11) (.replicate 2)

/-- Connect, learn that the server is ready, and tell the tunnel. -/
def connecting (env : Env) (vpnSessionUuid : Uuid) : List ChannelLabel :=
  [.post (.command (.connect location)), .handle env,
    .post (.vpnSessionStatus (ready env.uuid vpnSessionUuid)), .handle env]

/-- The tunnel is built, and torn down when the user says so. -/
def session (env : Env) : List ChannelLabel :=
  [.tunnel (.take false), .handle env, .tunnel .established, .handle env,
    .post (.command .disconnect), .handle env, .tunnel (.take false), .handle env,
    .tunnel (.finish ⟨"none"⟩), .handle env]

theorem init : Channel.Init (.created device) := Channel.init_created (.replicate 13) device rfl

end Sample

end Modvpn
