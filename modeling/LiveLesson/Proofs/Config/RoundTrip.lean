import LiveLesson.Config.Settings
import LiveLesson.Proofs.Wire.Values

/-!
The settings come back from what is written of them. Each section is an object of its own, in which
every part has a standard value.
-/

namespace LiveLesson

open Record

namespace ServerSettings

def InRange (s : ServerSettings) : Prop := s.port < 2 ^ 16

def puts (v : ServerSettings) : List (ServerSettings → ServerSettings) := [
  fun s => { s with host := v.host }, fun s => { s with port := v.port },
  fun s => { s with corsAllowOrigins := v.corsAllowOrigins }]

theorem restores {s : ServerSettings} (h : s.InRange) :
    record.Restores (inside []) (record.withPuts s.puts) s where
  commute := by simp [withPuts, record, puts]
  each := ⟨(restored_of (Wire.string_recovers s.host) _).withDefault,
    (restored_of (Wire.natural_recovers (by decide) h) _).withDefault,
    (restored_of (Wire.strings_recovers s.corsAllowOrigins) _).withDefault⟩

end ServerSettings

namespace DatabaseSettings

structure InRange (s : DatabaseSettings) : Prop where
  port : s.port < 2 ^ 16
  maxConnections : s.maxConnections < 2 ^ 32
  acquireTimeoutSecs : s.acquireTimeoutSecs < 2 ^ 64

def puts (v : DatabaseSettings) : List (DatabaseSettings → DatabaseSettings) := [
  fun s => { s with url := v.url }, fun s => { s with user := v.user },
  fun s => { s with password := v.password },
  fun s => { s with host := v.host }, fun s => { s with port := v.port },
  fun s => { s with name := v.name },
  fun s => { s with maxConnections := v.maxConnections },
  fun s => { s with acquireTimeoutSecs := v.acquireTimeoutSecs }]

theorem restores {s : DatabaseSettings} (h : s.InRange) :
    record.Restores (inside []) (record.withPuts s.puts) s where
  commute := by simp [withPuts, record, puts]
  each := ⟨(restored_of (Wire.optional_string_recovers s.url) _).withDefault,
    (restored_of (Wire.string_recovers s.user) _).withDefault,
    (restored_of (Wire.string_recovers s.password) _).withDefault,
    (restored_of (Wire.string_recovers s.host) _).withDefault,
    (restored_of (Wire.natural_recovers (by decide) h.port) _).withDefault,
    (restored_of (Wire.string_recovers s.name) _).withDefault,
    (restored_of (Wire.natural_recovers (by decide) h.maxConnections) _).withDefault,
    (restored_of (Wire.natural_recovers (by decide) h.acquireTimeoutSecs) _).withDefault⟩

end DatabaseSettings

namespace PlaybackSettings

structure InRange (s : PlaybackSettings) : Prop where
  rtmpPort : s.rtmpPort < 2 ^ 16
  flvPort : s.flvPort < 2 ^ 16
  hlsPort : s.hlsPort < 2 ^ 16

def puts (v : PlaybackSettings) : List (PlaybackSettings → PlaybackSettings) := [
  fun s => { s with host := v.host }, fun s => { s with app := v.app },
  fun s => { s with rtmpPort := v.rtmpPort },
  fun s => { s with flvPort := v.flvPort }, fun s => { s with hlsPort := v.hlsPort }]

theorem restores {s : PlaybackSettings} (h : s.InRange) :
    record.Restores (inside []) (record.withPuts s.puts) s where
  commute := by simp [withPuts, record, puts]
  each := ⟨(restored_of (Wire.string_recovers s.host) _).withDefault,
    (restored_of (Wire.string_recovers s.app) _).withDefault,
    (restored_of (Wire.natural_recovers (by decide) h.rtmpPort) _).withDefault,
    (restored_of (Wire.natural_recovers (by decide) h.flvPort) _).withDefault,
    (restored_of (Wire.natural_recovers (by decide) h.hlsPort) _).withDefault⟩

end PlaybackSettings

namespace StreamingSettings

structure InRange (s : StreamingSettings) : Prop where
  requestTimeoutSecs : s.requestTimeoutSecs < 2 ^ 64
  playback : s.playback.InRange

def puts (v : StreamingSettings) : List (StreamingSettings → StreamingSettings) := [
  fun s => { s with apiUrl := v.apiUrl },
  fun s => { s with requestTimeoutSecs := v.requestTimeoutSecs },
  fun s => { s with playback := v.playback }]

def nested : List (String × (Json → Json → Prop)) :=
  [("playback", PlaybackSettings.record.Rearranges (inside []))]

theorem restores {s : StreamingSettings} (h : s.InRange) :
    record.Restores (inside nested) (record.withPuts s.puts) s where
  commute := by simp [withPuts, record, puts]
  each := ⟨(restored_of (Wire.string_recovers s.apiUrl) _).withDefault,
    (restored_of (Wire.natural_recovers (by decide) h.requestTimeoutSecs) _).withDefault,
    (restored_of (PlaybackSettings.restores h.playback).recovers _).withDefault⟩

end StreamingSettings

namespace MaintenanceSettings

def InRange (s : MaintenanceSettings) : Prop := (Text.Range.signed 64).Contains s.stalePendingHours

def puts (v : MaintenanceSettings) : List (MaintenanceSettings → MaintenanceSettings) := [
  fun s => { s with stalePendingHours := v.stalePendingHours }]

theorem restores {s : MaintenanceSettings} (h : s.InRange) :
    record.Restores (inside []) (record.withPuts s.puts) s where
  commute := by simp [withPuts, record, puts]
  each := (restored_of (Wire.int64_recovers h) _).withDefault

end MaintenanceSettings

namespace Settings

structure InRange (s : Settings) : Prop where
  server : s.server.InRange
  database : s.database.InRange
  streaming : s.streaming.InRange
  maintenance : s.maintenance.InRange

def puts (v : Settings) : List (Settings → Settings) := [
  fun s => { s with server := v.server }, fun s => { s with database := v.database },
  fun s => { s with streaming := v.streaming }, fun s => { s with maintenance := v.maintenance }]

def nested : List (String × (Json → Json → Prop)) := [
  ("server", ServerSettings.record.Rearranges (inside [])),
  ("database", DatabaseSettings.record.Rearranges (inside [])),
  ("streaming", StreamingSettings.record.Rearranges (inside StreamingSettings.nested)),
  ("maintenance", MaintenanceSettings.record.Rearranges (inside []))]

theorem restores {s : Settings} (h : s.InRange) :
    record.Restores (inside nested) (record.withPuts s.puts) s where
  commute := by simp [withPuts, record, puts]
  each := ⟨(restored_of (ServerSettings.restores h.server).recovers _).withDefault,
    (restored_of (DatabaseSettings.restores h.database).recovers _).withDefault,
    (restored_of (StreamingSettings.restores h.streaming).recovers _).withDefault,
    (restored_of (MaintenanceSettings.restores h.maintenance).recovers _).withDefault⟩

end Settings

end LiveLesson
