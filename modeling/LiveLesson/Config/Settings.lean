import LiveLesson.Session.Playback
import LiveLesson.Wire.Record

/-!
The settings of the service and their standard values. As JSON every part may be left out and then
keeps its standard value.
-/

namespace LiveLesson

structure ServerSettings where
  host : String
  port : Nat
  corsAllowOrigins : List String
  deriving DecidableEq, Repr

namespace ServerSettings

def standard : ServerSettings := ⟨"0.0.0.0", 8080, ["*"]⟩

def record : Record ServerSettings where
  title := "ServerConfig"
  blank := standard
  fields := [
    (Field.of "host" Wire.string host fun s x => { s with host := x }).withDefault,
    (Field.of "port" (Wire.natural 16) port fun s x => { s with port := x }).withDefault,
    (Field.of "cors_allow_origins" (Wire.list Wire.string) corsAllowOrigins
      fun s x => { s with corsAllowOrigins := x }).withDefault]

end ServerSettings

/-- How the database is reached: by one address, or by its parts when there is none. -/
structure DatabaseSettings where
  url : Option String
  user : String
  password : String
  host : String
  port : Nat
  name : String
  maxConnections : Nat
  acquireTimeoutSecs : Nat
  deriving DecidableEq, Repr

namespace DatabaseSettings

def standard : DatabaseSettings :=
  ⟨none, "classlive", "", "127.0.0.1", 5432, "classlive", 10, 30⟩

def record : Record DatabaseSettings where
  title := "DatabaseConfig"
  blank := standard
  fields := [
    (Field.of "url" (Wire.optional Wire.string) url fun s x => { s with url := x }).withDefault,
    (Field.of "user" Wire.string user fun s x => { s with user := x }).withDefault,
    (Field.of "password" Wire.string password fun s x => { s with password := x }).withDefault,
    (Field.of "host" Wire.string host fun s x => { s with host := x }).withDefault,
    (Field.of "port" (Wire.natural 16) port fun s x => { s with port := x }).withDefault,
    (Field.of "name" Wire.string name fun s x => { s with name := x }).withDefault,
    (Field.of "max_connections" (Wire.natural 32) maxConnections
      fun s x => { s with maxConnections := x }).withDefault,
    (Field.of "acquire_timeout_secs" (Wire.natural 64) acquireTimeoutSecs
      fun s x => { s with acquireTimeoutSecs := x }).withDefault]

end DatabaseSettings

structure StreamingSettings where
  apiUrl : String
  requestTimeoutSecs : Nat
  playback : PlaybackSettings
  deriving DecidableEq, Repr

namespace StreamingSettings

def standard : StreamingSettings := ⟨"http://127.0.0.1:8090", 10, PlaybackSettings.standard⟩

def record : Record StreamingSettings where
  title := "StreamingConfig"
  blank := standard
  fields := [
    (Field.of "api_url" Wire.string apiUrl fun s x => { s with apiUrl := x }).withDefault,
    (Field.of "request_timeout_secs" (Wire.natural 64) requestTimeoutSecs
      fun s x => { s with requestTimeoutSecs := x }).withDefault,
    (Field.of "playback" PlaybackSettings.record.wire playback
      fun s x => { s with playback := x }).withDefault]

end StreamingSettings

structure MaintenanceSettings where
  /-- Pending sessions older than this are orphans. -/
  stalePendingHours : Int
  deriving DecidableEq, Repr

namespace MaintenanceSettings

def standard : MaintenanceSettings := ⟨24⟩

def record : Record MaintenanceSettings where
  title := "MaintenanceConfig"
  blank := standard
  fields := [
    (Field.of "stale_pending_hours" Wire.int64 stalePendingHours
      fun s x => { s with stalePendingHours := x }).withDefault]

end MaintenanceSettings

structure Settings where
  server : ServerSettings
  database : DatabaseSettings
  streaming : StreamingSettings
  maintenance : MaintenanceSettings
  deriving DecidableEq, Repr

namespace Settings

def standard : Settings :=
  ⟨.standard, .standard, .standard, .standard⟩

def record : Record Settings where
  title := "Config"
  blank := standard
  fields := [
    (Field.of "server" ServerSettings.record.wire server fun s x =>
      { s with server := x }).withDefault,
    (Field.of "database" DatabaseSettings.record.wire database
      fun s x => { s with database := x }).withDefault,
    (Field.of "streaming" StreamingSettings.record.wire streaming
      fun s x => { s with streaming := x }).withDefault,
    (Field.of "maintenance" MaintenanceSettings.record.wire maintenance
      fun s x => { s with maintenance := x }).withDefault]

end Settings

end LiveLesson
