import LiveLesson.Config.Load
import LiveLesson.Proofs.Config.Slots
import LiveLesson.Proofs.Text.Integer

/-!
Text settings in variables. A variable is read as a truth value or a number before it is written out
as a text again, so a setting holds the normal spelling of what its variable says; every other text
is taken as it stands.
-/

namespace LiveLesson.Config

open Text

namespace Environment

variable {text name : String} {cs digits : List Char} {negative : Bool}

def IsTruthWord (cs : List Char) : Prop :=
  lowerChars cs = "true".toList ∨ lowerChars cs = "false".toList

def normal (text : String) : String :=
  let cs := text.toList
  if lowerChars cs = "true".toList then "true"
  else if lowerChars cs = "false".toList then "false"
  else
    match readIntegerChars (.signed 64) cs, float? cs with
    | .ok n, _ => toString n
    | .error _, some x => x.plainText
    | .error _, none => text

/-- The texts that a setting keeps: numbers and truth values in their normal spelling, and what is
neither. -/
inductive IsVerbatim (text : String) : Prop
  | truth (h : text = "true" ∨ text = "false")
  | integer (n : Int) (hrange : (Range.signed 64).Contains n) (h : text = toString n)
  | float (htruth : ¬IsTruthWord text.toList)
    (hinteger : ∀ n, readIntegerChars (.signed 64) text.toList ≠ .ok n)
      (x : Binary64) (hfloat : float? text.toList = some x) (h : text = x.plainText)
  | other (htruth : ¬IsTruthWord text.toList)
    (hinteger : ∀ n, readIntegerChars (.signed 64) text.toList ≠ .ok n)
      (hfloat : float? text.toList = none)

theorem value_not_table (name text : String) (entries : List (String × Tree)) :
    value name text ≠ .table entries := by
  unfold value
  dsimp only
  split
  · nofun
  · split
    · nofun
    · split
      · nofun
      · nofun
      · split <;> nofun

theorem readText_value (h : name ≠ listName) (text : String) :
    (value name text).readText = .ok (normal text) := by
  unfold value normal
  dsimp only
  split
  · rfl
  · split
    · rfl
    · cases readIntegerChars (.signed 64) text.toList with
      | ok n => rfl
      | error e =>
        cases float? text.toList with
        | some x => rfl
        | none => rfl

theorem lowerChars_cons {c : Char} (h : c.toNat < 0x80) (cs : List Char) :
    lowerChars (c :: cs) = c.toLower :: lowerChars cs := by
  have hne : c ≠ '\u0130' := by
    rintro rfl
    exact absurd h (by decide)
  simp [lowerChars, lowerChar, hne, h]

theorem toLower_of_sign_or_digit {c : Char} (h : c.isDigit = true ∨ c = '+' ∨ c = '-') :
    c.toNat < 0x80 ∧ c.toLower = c := by
  obtain h | rfl | rfl := h
  · have hnine : c.toNat ≤ 57 := (Char.isDigit_iff_toNat.1 h).2
    refine ⟨Nat.lt_of_le_of_lt hnine (by decide), dif_neg fun hcapital => ?_⟩
    have hA : 65 ≤ c.toNat := UInt32.le_iff_toNat_le.1 hcapital.1
    omega
  · decide
  · decide

theorem not_isTruthWord_of_isNumeral (h : IsNumeral cs negative digits) : ¬IsTruthWord cs := by
  have hhead : ∃ c rest, cs = c :: rest ∧ (c.isDigit = true ∨ c = '+' ∨ c = '-') := by
    cases h with
    | plain hne h =>
      obtain ⟨c, rest, rfl⟩ := List.exists_cons_of_ne_nil hne
      exact ⟨c, rest, rfl, .inl (h c List.mem_cons_self)⟩
    | plus => exact ⟨_, _, rfl, .inr (.inl rfl)⟩
    | minus => exact ⟨_, _, rfl, .inr (.inr rfl)⟩
  obtain ⟨c, rest, rfl, hc⟩ := hhead
  obtain ⟨hsmall, hlower⟩ := toLower_of_sign_or_digit hc
  have hword : c ≠ 't' ∧ c ≠ 'f' := by
    constructor <;> rintro rfl <;> revert hc <;> decide
  rw [IsTruthWord, lowerChars_cons hsmall, hlower]
  rintro (h | h)
  · exact hword.1 (List.cons.inj h).1
  · exact hword.2 (List.cons.inj h).1

theorem normal_of_integer {n : Int} (htruth : ¬IsTruthWord text.toList)
    (h : readIntegerChars (.signed 64) text.toList = .ok n) : normal text = toString n := by
  obtain ⟨htrue, hfalse⟩ := not_or.1 htruth
  simp only [normal, if_neg htrue, if_neg hfalse, h]

theorem normal_of_not_integer (htruth : ¬IsTruthWord text.toList)
    (h : ∀ n, readIntegerChars (.signed 64) text.toList ≠ .ok n) :
    normal text = match float? text.toList with
      | some x => x.plainText
      | none => text := by
  obtain ⟨htrue, hfalse⟩ := not_or.1 htruth
  cases hread : readIntegerChars (.signed 64) text.toList with
  | ok n => exact absurd hread (h n)
  | error e =>
    simp only [normal, if_neg htrue, if_neg hfalse, hread]
    cases float? text.toList <;> rfl

theorem normal_eq_self_iff (text : String) : normal text = text ↔ IsVerbatim text := by
  constructor
  · intro h
    by_cases htrue : lowerChars text.toList = "true".toList
    · exact .truth (.inl (h.symm.trans (if_pos htrue)))
    by_cases hfalse : lowerChars text.toList = "false".toList
    · exact .truth (.inr (h.symm.trans ((if_neg htrue).trans (if_pos hfalse))))
    have htruth : ¬IsTruthWord text.toList := not_or.2 ⟨htrue, hfalse⟩
    by_cases hinteger : ∃ n, readIntegerChars (.signed 64) text.toList = .ok n
    · obtain ⟨n, hn⟩ := hinteger
      obtain ⟨-, -, -, -, hrange⟩ :=
        (readIntegerChars_eq_ok_iff (contains_zero_signed 64) (by decide)).1 hn
      exact .integer n hrange (h.symm.trans (normal_of_integer htruth hn))
    · have hinteger := not_exists.1 hinteger
      rw [normal_of_not_integer htruth hinteger] at h
      cases hfloat : float? text.toList with
      | some x => exact .float htruth hinteger x hfloat (by rw [hfloat] at h; exact h.symm)
      | none => exact .other htruth hinteger hfloat
  · intro h
    cases h with
    | truth h => rcases h with rfl | rfl <;> rfl
    | integer n hrange h =>
      -- Words are looked for before numbers, and no numeral is a word.
      subst h
      exact normal_of_integer (not_isTruthWord_of_isNumeral (isNumeral_toString n))
        (readIntegerChars_toString (contains_zero_signed 64) (by decide) hrange)
    | float htruth hinteger x hfloat h =>
      exact (normal_of_not_integer htruth hinteger).trans (by rw [hfloat]; exact h.symm)
    | other htruth hinteger hfloat => rw [normal_of_not_integer htruth hinteger, hfloat]

theorem settings_append {x : String} (hname : settingName? x = some name)
    (before after : Variables) :
    settings (before ++ (x, text) :: after) = settings before ++ (name, value name text) ::
      settings after := by
  simp [settings, List.filterMap_append, hname]

end Environment

namespace TextSetting

open Environment

def variableName : TextSetting → String
  | serverHost => "CLASSLIVE__SERVER__HOST"
  | databaseUser => "CLASSLIVE__DATABASE__USER"
  | databasePassword => "CLASSLIVE__DATABASE__PASSWORD"
  | databaseHost => "CLASSLIVE__DATABASE__HOST"
  | databaseName => "CLASSLIVE__DATABASE__NAME"
  | playbackHost => "CLASSLIVE__STREAMING__PLAYBACK__HOST"
  | playbackApp => "CLASSLIVE__STREAMING__PLAYBACK__APP"

theorem exists_settingName (f : TextSetting) :
    ∃ name, settingName? f.variableName = some name ∧ name ≠ listName ∧
    KeyPath.stepsOf name = f.path.map .child := by
  cases f with
  | serverHost => exact ⟨"server.host", by decide +kernel⟩
  | databaseUser => exact ⟨"database.user", by decide +kernel⟩
  | databasePassword => exact ⟨"database.password", by decide +kernel⟩
  | databaseHost => exact ⟨"database.host", by decide +kernel⟩
  | databaseName => exact ⟨"database.name", by decide +kernel⟩
  | playbackHost => exact ⟨"streaming.playback.host", by decide +kernel⟩
  | playbackApp => exact ⟨"streaming.playback.app", by decide +kernel⟩

theorem map_lowerName_path (f : TextSetting) : f.path.map Tree.lowerName = f.path := by
  cases f <;> decide +kernel

/-- Whether a variable is none of the service, or names a place that is neither this setting nor
above or below it. -/
def spares (f : TextSetting) (x : String) : Bool :=
  (settingName? x).all fun name => KeyPath.avoids (KeyPath.stepsOf name) f.path

theorem avoids_of_spares {f : TextSetting} {vars : Variables}
    (h : ∀ x ∈ vars, f.spares x.1 = true) :
    ∀ e ∈ settings vars, KeyPath.avoids (KeyPath.stepsOf e.1) f.path = true := by
  intro e he
  obtain ⟨⟨x, text⟩, hx, hsome⟩ := List.mem_filterMap.1 he
  obtain ⟨name, hname, rfl⟩ := Option.map_eq_some_iff.1 hsome
  have hspares := h (x, text) hx
  rwa [spares, hname, Option.all_some] at hspares

end TextSetting

open Environment

variable {disk : Disk} {path text : String} {before after : Variables} {s : Settings}

theorem readSettings_of_loadFrom {vars : Variables} (h : loadFrom disk vars path = .ok s) :
    ∃ entries, (((Tree.table []).merge entries).merge (settings vars)).readSettings = .ok s := by
  simp only [loadFrom, bind, Except.bind, pure, Except.pure] at h
  split at h
  · cases h
  · next entries _ =>
    refine ⟨entries, ?_⟩
    cases hread : (((Tree.table []).merge entries).merge (settings vars)).readSettings with
    | error e => simp [hread, Except.mapError] at h
    | ok read =>
      simp only [hread, Except.mapError] at h
      split at h
      · cases h
      · rw [Except.ok.inj h]

/-- A text setting holds the normal spelling of its variable's text, whatever the file says, unless
a later variable reaches it as well. It is the text itself exactly for truth values and numbers in
their normal spelling, and for what is neither. -/
theorem text_setting_loaded (f : TextSetting)
    (h : loadFrom disk (before ++ (f.variableName, text) :: after) path = .ok s)
    (hafter : ∀ x ∈ after, f.spares x.1 = true) :
    f.get s = normal text ∧ (f.get s = text ↔ IsVerbatim text) := by
  obtain ⟨entries, hread⟩ := readSettings_of_loadFrom h
  obtain ⟨name, hname, hlist, hsteps⟩ := f.exists_settingName
  rw [settings_append hname] at hread
  have hspared := TextSetting.avoids_of_spares hafter
  have hpath := f.map_lowerName_path
  rw [← hpath] at hspared
  have hat := Tree.at?_merge_append (settings before) (value_not_table name text) hsteps hspared
    ((Tree.table []).merge entries)
  rw [hpath] at hat
  have hvalue :=
    Tree.readText_of_readSettings f ((Tree.isProper_empty.merge entries).merge _) hat hread
  have hnormal : f.get s = normal text :=
    (Except.ok.inj ((readText_value hlist text).symm.trans hvalue)).symm
  exact ⟨hnormal, hnormal ▸ normal_eq_self_iff text⟩

/-- A password that is no number is loaded as it stands. -/
theorem plain_password_loaded :
    ∃ s, loadFrom (Files.disk [("cfg.toml", "[database]\npassword = \"old\"\n")])
      [("CLASSLIVE__SERVER__PORT", "9000"), ("CLASSLIVE__DATABASE__PASSWORD", "s3cret"),
        ("CLASSLIVE__DATABASE__USER", "root")] "cfg" = .ok s ∧
      s.database.password = "s3cret" := by
  let server : ServerSettings := { ServerSettings.standard with port := 9000 }
  let database : DatabaseSettings :=
    { DatabaseSettings.standard with user := "root", password := "s3cret" }
  have hloaded : loadFrom (Files.disk [("cfg.toml", "[database]\npassword = \"old\"\n")])
      ([("CLASSLIVE__SERVER__PORT", "9000")] ++
      (TextSetting.databasePassword.variableName, "s3cret") ::
        [("CLASSLIVE__DATABASE__USER", "root")]) "cfg" =
      .ok ⟨server, database, .standard, .standard⟩ := by
    decide +kernel
  have hinteger : readIntegerChars (.signed 64) "s3cret".toList = .error .invalidDigit := by
    decide +kernel
  have hverbatim : IsVerbatim "s3cret" :=
    .other (not_or.2 (by decide +kernel)) (fun n hn => nomatch hinteger.symm.trans hn)
      (by decide +kernel)
  exact ⟨_, hloaded, (text_setting_loaded .databasePassword hloaded (by decide +kernel)).2.2
    hverbatim⟩

/-- A password of digits loses the zeros in front, and a variable that differs in the case of its
letters replaces another. -/
theorem password_not_verbatim :
    (loadFrom (Files.disk []) [("CLASSLIVE__DATABASE__PASSWORD", "007")] "cfg").map
      (fun s => s.database.password) = .ok "7" ∧
      (loadFrom (Files.disk []) [("CLASSLIVE__DATABASE__PASSWORD", "a"),
        ("classlive__database__password", "b")] "cfg").map
        (fun s => s.database.password) = .ok "b" := by
  constructor <;> decide +kernel

end LiveLesson.Config
