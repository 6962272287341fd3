import LiveLesson.Text.Blank
import LiveLesson.Wire.Record

/-!
Where viewers find a live stream. The addresses follow from the settings and the stream key alone;
slashes behind the host and around the application are dropped.
-/

namespace LiveLesson

structure PlaybackSettings where
  host : String
  app : String
  rtmpPort : Nat
  flvPort : Nat
  hlsPort : Nat
  deriving DecidableEq, Repr

namespace PlaybackSettings

def standard : PlaybackSettings := ⟨"localhost", "live", 1935, 7001, 7002⟩

def record : Record PlaybackSettings where
  title := "PlaybackConfig"
  blank := standard
  fields := [
    (Field.of "host" Wire.string host fun s x => { s with host := x }).withDefault,
    (Field.of "app" Wire.string app fun s x => { s with app := x }).withDefault,
    (Field.of "rtmp_port" (Wire.natural 16) rtmpPort fun s x =>
      { s with rtmpPort := x }).withDefault,
    (Field.of "flv_port" (Wire.natural 16) flvPort fun s x => { s with flvPort := x }).withDefault,
    (Field.of "hls_port" (Wire.natural 16) hlsPort fun s x => { s with hlsPort := x }).withDefault]

end PlaybackSettings

structure PlaybackUrls where
  rtmp : String
  flv : String
  hls : String
  deriving DecidableEq, Repr, Inhabited

namespace PlaybackUrls

def record : Record PlaybackUrls where
  title := "PlaybackUrls"
  blank := default
  fields := [
    Field.of "rtmp" Wire.string rtmp fun s x => { s with rtmp := x },
    Field.of "flv" Wire.string flv fun s x => { s with flv := x },
    Field.of "hls" Wire.string hls fun s x => { s with hls := x }]

def isSlash (c : Char) : Bool := c == '/'

def hostChars (s : PlaybackSettings) : List Char := Text.dropEndWhile isSlash s.host.toList

def appChars (s : PlaybackSettings) : List Char :=
  Text.dropEndWhile isSlash (s.app.toList.dropWhile isSlash)

def origin (scheme : String) (s : PlaybackSettings) (port : Nat) : List Char :=
  scheme.toList ++ "://".toList ++ hostChars s ++ ':' :: Nat.toDigits 10 port

def path (s : PlaybackSettings) (key : String) : List Char :=
  '/' :: appChars s ++ '/' :: key.toList

def ofKey (s : PlaybackSettings) (key : String) : PlaybackUrls where
  rtmp := String.ofList (origin "rtmp" s s.rtmpPort ++ path s key)
  flv := String.ofList (origin "http" s s.flvPort ++ path s key ++ ".flv".toList)
  hls := String.ofList (origin "http" s s.hlsPort ++ path s key ++ ".m3u8".toList)

end PlaybackUrls

end LiveLesson
