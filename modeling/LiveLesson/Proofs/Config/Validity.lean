import LiveLesson.Config.Load
import Mathlib.Data.List.Basic

/-!
What holds of loaded settings. Whatever the file and the variables are, settings that are loaded
have passed every check; only the address of the database can be put in behind the checks, and a
blank one brings back parts that were not looked at.
-/

namespace LiveLesson.Config

open Text

structure IsValid (s : Settings) : Prop where
  apiUrl : ∃ url, Url.parse s.streaming.apiUrl = .ok url
  playbackHost : isBlankText s.streaming.playback.host = false
  staleHours : 0 < s.maintenance.stalePendingHours
  connection : ∃ text, s.database.connectionUrl = .ok text

theorem check_eq_ok_iff (s : Settings) : check s = .ok () ↔ IsValid s := by
  constructor
  · intro h
    simp only [check, bind, Except.bind, pure, Except.pure, throw, throwThe,
      MonadExceptOf.throw] at h
    cases hurl : Url.parse s.streaming.apiUrl with
    | error e => simp [hurl] at h
    | ok url =>
      by_cases hblank : isBlankText s.streaming.playback.host = true
      · simp [hurl, hblank] at h
      by_cases hhours : s.maintenance.stalePendingHours ≤ 0
      · simp [hurl, hblank, hhours] at h
      cases hconnection : s.database.connectionUrl with
      | error e => simp [hurl, hblank, hhours, hconnection] at h
      | ok text =>
        exact ⟨⟨url, hurl⟩, by simpa using hblank, Int.not_le.1 hhours, ⟨text, hconnection⟩⟩
  · rintro ⟨⟨url, hurl⟩, hblank, hhours, ⟨text, hconnection⟩⟩
    have hpositive : ¬s.maintenance.stalePendingHours ≤ 0 := Int.not_le.2 hhours
    simp [check, hurl, hblank, hpositive, hconnection, pure, Except.pure]

variable {disk : Disk} {vars : Variables} {path : String} {s : Settings}

theorem isValid_of_loadFrom (h : loadFrom disk vars path = .ok s) : IsValid s := by
  simp only [loadFrom, bind, Except.bind, pure, Except.pure] at h
  split at h
  · cases h
  · split at h
    · cases h
    · next settings _ =>
      split at h
      · cases h
      · next hcheck => exact Except.ok.inj h ▸ (check_eq_ok_iff settings).1 hcheck

/-- Loading is loading from a file, with the address of the database from a variable of its own put
in. -/
theorem load_eq_ok (h : load disk vars = .ok s) : ∃ checked, IsValid checked ∧
    ((withDotenv disk vars).lookup "DATABASE_URL" = none ∧ s = checked ∨
      ∃ url, (withDotenv disk vars).lookup "DATABASE_URL" = some url ∧
        s = { checked with database.url := some url }) := by
  simp only [load, bind, Except.bind, pure, Except.pure] at h
  split at h
  · cases h
  · next checked hchecked =>
    refine ⟨checked, isValid_of_loadFrom hchecked, ?_⟩
    split at h
    · next url hurl => exact .inr ⟨url, hurl, (Except.ok.inj h).symm⟩
    · next hnone => exact .inl ⟨hnone, (Except.ok.inj h).symm⟩

theorem connectionUrl_of_blank {d : DatabaseSettings} {url : String} (hurl : d.url = some url)
    (hblank : isBlankText url = true) :
    (∃ text, d.connectionUrl = .ok text) ↔ ∃ address, d.assembledUrl = .ok address := by
  have hgiven : d.givenUrl = none := by simp [DatabaseSettings.givenUrl, hurl, hblank]
  rw [DatabaseSettings.connectionUrl, hgiven]
  cases d.assembledUrl <;> simp [Except.map]

theorem connectionUrl_of_given {d : DatabaseSettings} {url : String} (hurl : d.url = some url)
    (hblank : isBlankText url = false) : d.connectionUrl = .ok url := by
  have hgiven : d.givenUrl = some url := by simp [DatabaseSettings.givenUrl, hurl, hblank]
  rw [DatabaseSettings.connectionUrl, hgiven]

/-- Loaded settings satisfy what loading checks, with one exception: a blank address of the database
in the variable for it, which is put in behind the checks, while the parts cannot be put
together. -/
theorem loaded_isValid (h : load disk vars = .ok s) :
    (∃ url, Url.parse s.streaming.apiUrl = .ok url) ∧
    isBlankText s.streaming.playback.host = false ∧
      0 < s.maintenance.stalePendingHours ∧
      ((∃ text, s.database.connectionUrl = .ok text) ↔
        ¬∃ url, (withDotenv disk vars).lookup "DATABASE_URL" = some url ∧ isBlankText url = true ∧
          ∀ address, s.database.assembledUrl ≠ .ok address) := by
  -- The other settings are those that were checked; only the address can be another one.
  obtain ⟨checked, hvalid, ⟨hnone, rfl⟩ | ⟨url, hurl, rfl⟩⟩ := load_eq_ok h
  · refine ⟨hvalid.apiUrl, hvalid.playbackHost, hvalid.staleHours, iff_of_true hvalid.connection ?_⟩
    rw [hnone]
    rintro ⟨url, hsome, -⟩
    cases hsome
  · refine ⟨hvalid.apiUrl, hvalid.playbackHost, hvalid.staleHours, ?_⟩
    rw [hurl]
    cases hblank : isBlankText url with
    | false =>
      refine iff_of_true ⟨url, connectionUrl_of_given rfl hblank⟩ ?_
      rintro ⟨_, ⟨⟩, hblank', -⟩
      rw [hblank] at hblank'
      cases hblank'
    | true =>
      rw [connectionUrl_of_blank rfl hblank]
      simp [hblank]

/-- A blank address counts as none where the parts make one. -/
theorem blank_address_passed_over : ∃ s,
    load (Files.disk [("config.toml", "[database]\nhost = \"db\"\n")]) [("DATABASE_URL", " ")] =
      .ok s ∧
      ∃ text, s.database.connectionUrl = .ok text := by
  let database : DatabaseSettings :=
    { DatabaseSettings.standard with url := some " ", host := "db" }
  have hloaded : load (Files.disk [("config.toml", "[database]\nhost = \"db\"\n")])
      [("DATABASE_URL", " ")] =
      .ok ⟨.standard, database, .standard, .standard⟩ := by
    decide +kernel
  obtain ⟨address, haddress⟩ : ∃ address, database.assembledUrl = .ok address :=
    ⟨⟨"postgres", some ⟨"classlive", none, .name "db", some 5432⟩, .segments ["classlive"], none,
      none⟩, by decide +kernel⟩
  refine ⟨_, hloaded, (loaded_isValid hloaded).2.2.2.2 ?_⟩
  rintro ⟨-, -, -, hparts⟩
  exact hparts address haddress

/-- A blank address brings back parts that make none. -/
theorem blank_address_not_checked :
    (load (Files.disk [("config.toml", "[database]\nurl = \"postgres://db\"\nhost = \"\"\n")])
      [("DATABASE_URL", "")]).map
      (fun s => s.database.connectionUrl) = .ok (.error (.port 5432)) := by
  decide +kernel

end LiveLesson.Config
