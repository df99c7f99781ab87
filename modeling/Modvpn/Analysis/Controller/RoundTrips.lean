/-
# What a client reads is what the daemon sent

The two encoders of times agree, and a client reads back every location. A time is read
back exactly if chrono accepts its numbers. It does, unless the time is a leap second that
is not at the end of a minute; such a time can be held, and it is sent like any other, but
the client refuses it.
-/

import Modvpn.Controller.Conversions
import Modvpn.Daemon.Channel

namespace Modvpn

/-- A leap second stands at the end of a minute. -/
def DateTimeUtc.Regular (value : DateTimeUtc) : Prop :=
  1000000000 ≤ value.nanos → value.timestamp % 60 = 59

instance (value : DateTimeUtc) : Decidable value.Regular :=
  inferInstanceAs (Decidable (_ → _))

/-- The time that a status carries. -/
def VpnStatus.since : VpnStatus → Option DateTimeUtc
  | .connected _ since => some since
  | _ => none

namespace Controller

variable {range : Chrono.DateRange} {value : DateTimeUtc}

/-! ## Times -/

theorem toInt_timestamp (h : range.Holds value) :
    (Chrono.timestamp value).toInt = value.timestamp := by
  obtain ⟨hfirst, hlast⟩ := h
  have hmin := range.i64_first
  have hmax := range.last_i64
  rw [Int64.toInt_minValue] at hmin
  rw [Int64.toInt_maxValue] at hmax
  exact Int64.toInt_ofInt_of_le (by omega) (by omega)

theorem toNat_timestampSubsecNanos (value : DateTimeUtc) :
    (Chrono.timestampSubsecNanos value).toNat = value.nanos := by
  have hnanos := value.nanos_lt
  rw [Chrono.timestampSubsecNanos, UInt32.toNat_ofNat']
  omega

theorem toInt_toInt32_timestampSubsecNanos (value : DateTimeUtc) :
    (Chrono.timestampSubsecNanos value).toInt32.toInt = value.nanos := by
  have hnanos := value.nanos_lt
  have hbits : (Chrono.timestampSubsecNanos value).toBitVec.toNat = value.nanos :=
    toNat_timestampSubsecNanos value
  rw [Int32.toInt, UInt32.toBitVec_toInt32, BitVec.toInt_eq_toNat_of_lt (by omega), hbits]

/-- Nanoseconds are not negative as an `i32` either. -/
theorem max_timestampSubsecNanos (value : DateTimeUtc) :
    max (Chrono.timestampSubsecNanos value).toInt32 0 =
      (Chrono.timestampSubsecNanos value).toInt32 := by
  have hnanos := toInt_toInt32_timestampSubsecNanos value
  by_cases hle : (Chrono.timestampSubsecNanos value).toInt32 ≤ 0
  · have hzero : (Chrono.timestampSubsecNanos value).toInt32 = 0 := by
      rw [Int32.le_iff_toInt_le] at hle
      apply Int32.toInt_inj.mp
      have : (0 : Int32).toInt = 0 := rfl
      omega
    rw [hzero]
    rfl
  · exact if_neg hle

/-- The inline encoder of a notification is the encoder of a status. -/
theorem timestamp_ofNotification (notification : Modvpn.Notification) :
    (Notification.ofNotification notification).timestamp =
      some (datetimeUtcToTimestamp notification.timestamp) := by
  rw [Notification.ofNotification, datetimeUtcToTimestamp, max_timestampSubsecNanos]

/-- Chrono accepts the numbers of exactly the regular times. -/
theorem timestampOpt_encode (h : range.Holds value) :
    Chrono.timestampOpt range (Chrono.timestamp value) (Chrono.timestampSubsecNanos value) =
      if value.Regular then .single value else .none := by
  unfold Chrono.timestampOpt
  simp only [toInt_timestamp h, toNat_timestampSubsecNanos]
  by_cases hregular : value.Regular
  · rw [dif_pos ⟨h, value.nanos_lt, hregular⟩, if_pos hregular]
  · rw [dif_neg (fun haccepted => hregular haccepted.2.2), if_neg hregular]

/-- The nanoseconds go through an `i32` unchanged. -/
theorem timestampToDatetimeUtc_encode (h : range.Holds value) :
    timestampToDatetimeUtc range (some (datetimeUtcToTimestamp value)) =
      if value.Regular then .ok value else .error "invalid utc time none" := by
  have hnanos : (datetimeUtcToTimestamp value).nanos.toUInt32 =
      Chrono.timestampSubsecNanos value := by
    rw [datetimeUtcToTimestamp, max_timestampSubsecNanos, UInt32.toUInt32_toInt32]
  unfold timestampToDatetimeUtc
  simp only [hnanos]
  rw [datetimeUtcToTimestamp, timestampOpt_encode h]
  by_cases hregular : value.Regular
  · rw [if_pos hregular, if_pos hregular]
  · rw [if_neg hregular, if_neg hregular]

/-! ## Locations -/

@[simp]
theorem Location.into_ofLocation (location : Modvpn.Location) :
    (Location.ofLocation location).into = location := rfl

theorem Locations.into_ofLocations (locations : List Modvpn.Location) :
    (Locations.ofLocations locations).into = locations := by
  rw [Locations.into, Locations.ofLocations, List.map_map]
  exact List.map_id'' Location.into_ofLocation locations

@[simp]
theorem located_ofLocation (location : Modvpn.Location) :
    located (some (.ofLocation location)) = .ok location := rfl

/-! ## Statuses -/

/-- Only a connected status can be refused, and the refusal is a panic. -/
theorem VpnStatus.into_ofVpnStatus {status : Modvpn.VpnStatus}
    (h : ∀ since ∈ status.since, range.Holds since) :
    (VpnStatus.ofVpnStatus status).into range =
      if ∀ since ∈ status.since, since.Regular then .ok status
      else .error
        ("called `Result::unwrap()` on an `Err` value: " ++ "invalid utc time none".quote) := by
  cases status with
  | connected location since =>
    have hread := timestampToDatetimeUtc_encode (h since rfl)
    have hsince : (∀ value ∈ (Modvpn.VpnStatus.connected location since).since, value.Regular) ↔
        since.Regular := by simp [Modvpn.VpnStatus.since]
    show (do
      let location ← located (some (.ofLocation location))
      let since ← unwrapShown
        (timestampToDatetimeUtc range (some (datetimeUtcToTimestamp since)))
      return Modvpn.VpnStatus.connected location since) = _
    rw [located_ofLocation, hread]
    by_cases hregular : since.Regular
    · rw [if_pos hregular, if_pos (hsince.mpr hregular)]
      rfl
    · rw [if_neg hregular, if_neg (mt hsince.mp hregular)]
      rfl
  | accepted location => rfl
  | serverCreated location => rfl
  | serverRunning location => rfl
  | serverReady location => rfl
  | connecting location => rfl
  | disconnecting location => rfl
  | disconnected => rfl

/-! ## Notifications -/

@[simp]
theorem notificationTypeTryFrom_ofType (type : NotificationType) :
    notificationTypeTryFrom (notificationTypeOfType type) = .ok type := by
  cases type <;> rfl

theorem Notification.tryInto_ofNotification {notification : Modvpn.Notification}
    (h : range.Holds notification.timestamp) :
    (Notification.ofNotification notification).tryInto range =
      if notification.timestamp.Regular then .ok notification
      else .error "invalid utc time none" := by
  have hread := timestampToDatetimeUtc_encode h
  unfold Notification.tryInto
  rw [timestamp_ofNotification, hread]
  have htype : notificationTypeTryFrom (Notification.ofNotification notification).notificationType =
      .ok notification.notificationType := notificationTypeTryFrom_ofType _
  rw [htype]
  by_cases hregular : notification.timestamp.Regular
  · rw [if_pos hregular, if_pos hregular]
    rfl
  · rw [if_neg hregular, if_neg hregular]
    rfl

/-- A list is read to the end if every item is read, and the first refusal is its own. -/
theorem mapM_encode {α β : Type} {ε : Type} {encode : α → β} {decode : β → Except ε α}
    {p : α → Prop} [DecidablePred p] {refusal : ε} {items : List α}
    (h : ∀ item ∈ items, decode (encode item) = if p item then .ok item else .error refusal) :
    (items.map encode).mapM decode =
      if ∀ item ∈ items, p item then .ok items else .error refusal := by
  induction items with
  | nil => rfl
  | cons item items ih =>
    have htail := ih (fun other hother => h other (List.mem_cons_of_mem _ hother))
    rw [List.map_cons, List.mapM_cons, h item List.mem_cons_self, htail]
    by_cases hitem : p item
    · by_cases hothers : ∀ other ∈ items, p other
      · rw [if_pos hitem, if_pos hothers, if_pos (List.forall_mem_cons.mpr ⟨hitem, hothers⟩)]
        rfl
      · have hnot : ¬ ∀ other ∈ item :: items, p other :=
          fun hall => hothers (List.forall_mem_cons.mp hall).2
        rw [if_pos hitem, if_neg hothers, if_neg hnot]
        rfl
    · have hnot : ¬ ∀ other ∈ item :: items, p other :=
        fun hall => hitem (List.forall_mem_cons.mp hall).1
      rw [if_neg hitem, if_neg hnot]
      rfl

theorem Notifications.tryInto_ofNotifications {notifications : List Modvpn.Notification}
    (h : ∀ notification ∈ notifications, range.Holds notification.timestamp) :
    (Notifications.ofNotifications notifications).tryInto range =
      if ∀ notification ∈ notifications, notification.timestamp.Regular then .ok notifications
      else .error "invalid utc time none" :=
  mapM_encode fun notification hnotification =>
    Notification.tryInto_ofNotification (h notification hnotification)

/-! ## Everything a client reads -/

/-- Whatever a client reads is what was sent, and it reads everything with regular times. -/
theorem clients_decode (range : Chrono.DateRange) :
    (∀ status : Modvpn.VpnStatus, (∀ since ∈ status.since, range.Holds since) →
      (VpnStatus.ofVpnStatus status).into range =
        if ∀ since ∈ status.since, since.Regular then .ok status
        else .error
          ("called `Result::unwrap()` on an `Err` value: " ++ "invalid utc time none".quote)) ∧
    (∀ locations, (Locations.ofLocations locations).into = locations) ∧
    (∀ notifications : List Modvpn.Notification,
      (∀ notification ∈ notifications, range.Holds notification.timestamp) →
      (Notifications.ofNotifications notifications).tryInto range =
        if ∀ notification ∈ notifications, notification.timestamp.Regular then .ok notifications
        else .error "invalid utc time none") ∧
    ∀ notification, (Notification.ofNotification notification).timestamp =
      some (datetimeUtcToTimestamp notification.timestamp) := by
  constructor
  · intro status hstatus
    exact VpnStatus.into_ofVpnStatus hstatus
  constructor
  · exact Locations.into_ofLocations
  constructor
  · intro notifications hnotifications
    exact Notifications.tryInto_ofNotifications hnotifications
  · exact timestamp_ofNotification

/-- From the first second of a `NaiveDateTime` to the last. -/
def naiveDateTimes : Chrono.DateRange where
  first := -8334632851200
  last := 8210298412799
  i64_first := by decide
  last_i64 := by decide

/-- A client reads the last leap second before the epoch, nanoseconds and all. -/
theorem exists_clients_decode :
    ∃ since : DateTimeUtc, since.timestamp < 0 ∧ since.nanos = 1999999999 ∧
      (VpnStatus.ofVpnStatus (.connected Sample.location since)).into naiveDateTimes =
        .ok (.connected Sample.location since) ∧
      ∃ notification : Modvpn.Notification, notification.timestamp = since ∧
        (Notifications.ofNotifications [notification]).tryInto naiveDateTimes =
          .ok [notification] := by
  let since : DateTimeUtc := { timestamp := -1, nanos := 1999999999, nanos_lt := by decide }
  let notification : Modvpn.Notification :=
    { id := "", message := "", notificationType := .serverFailed, timestamp := since }
  have hheld : naiveDateTimes.Holds since := by constructor <;> decide
  have hregular : since.Regular := by decide
  obtain ⟨hstatus, -, hnotifications, -⟩ := clients_decode naiveDateTimes
  have hread := hstatus (.connected Sample.location since)
    (fun value hvalue => Option.mem_some.mp hvalue ▸ hheld)
  have hlist := hnotifications [notification] (List.forall_mem_singleton.mpr hheld)
  have hregulars : ∀ other ∈ [notification], other.timestamp.Regular :=
    List.forall_mem_singleton.mpr hregular
  rw [if_pos (fun value hvalue => Option.mem_some.mp hvalue ▸ hregular)] at hread
  rw [if_pos hregulars] at hlist
  exact ⟨since, by decide, rfl, hread, notification, rfl, hlist⟩

/-- Half a second into a leap second that follows the first second of the epoch. -/
theorem not_forall_decoded :
    (¬ ∀ status : Modvpn.VpnStatus, (∀ since ∈ status.since, naiveDateTimes.Holds since) →
      (VpnStatus.ofVpnStatus status).into naiveDateTimes = .ok status) ∧
    ¬ ∀ notifications : List Modvpn.Notification,
      (∀ notification ∈ notifications, naiveDateTimes.Holds notification.timestamp) →
      (Notifications.ofNotifications notifications).tryInto naiveDateTimes =
        .ok notifications := by
  let since : DateTimeUtc := { timestamp := 0, nanos := 1500000000, nanos_lt := by decide }
  let notification : Modvpn.Notification :=
    { id := "", message := "", notificationType := .serverFailed, timestamp := since }
  have hheld : naiveDateTimes.Holds since := by constructor <;> decide
  have hirregular : ¬ since.Regular := by decide
  constructor
  · intro hall
    have hread := hall (.connected Sample.location since)
      (fun value hvalue => Option.mem_some.mp hvalue ▸ hheld)
    rw [VpnStatus.into_ofVpnStatus (fun value hvalue => Option.mem_some.mp hvalue ▸ hheld),
      if_neg (fun hregular => hirregular (hregular since rfl))] at hread
    cases hread
  · intro hall
    have hlist := hall [notification] (List.forall_mem_singleton.mpr hheld)
    have hnot : ¬ ∀ other ∈ [notification], other.timestamp.Regular :=
      fun hregular => hirregular (hregular notification List.mem_cons_self)
    rw [Notifications.tryInto_ofNotifications (List.forall_mem_singleton.mpr hheld),
      if_neg hnot] at hlist
    cases hlist

end Controller

end Modvpn
