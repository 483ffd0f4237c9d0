import QueryWire.Proofs.Number.Decimal
import QueryWire.Proofs.Toml.Pairs
import QueryWire.Settings.File

/-!
# Settings that are kept in a file

**The file.**  Settings are written under distinct keys that need no quotes, so the document of the
text has just these keys (`Toml.parse?_render?`).  A setting that is not set is left out, and its
absence is read as such.  Only a number that the format does not have keeps settings from being
written.

**The environment.**  A variable counts when an unsigned number of 64 bits stands in it, blanks
around it aside.  It is looked at after the file and before the settings are checked, so it can
make settings usable and unusable.

* `Settings.numbers` — the numbers among settings.
* `Text.Spells` — that a number stands in a text.
* `Settings.Overridden` — settings before and after a look into the environment.
* `Settings.survives_file` — what is read of settings that were written.
-/

namespace QueryWire

/-! ## Numbers in variables -/

/-- An unsigned number stands in a text, with blanks around it and at most a plus sign in front of
its digits. -/
def Text.Spells (text : String) (n : UInt64) : Prop :=
  ∃ before sign digits after : List Char, (∀ c ∈ before, isBlank c = true)
    ∧ (∀ c ∈ after, isBlank c = true) ∧ (sign = [] ∨ sign = ['+'])
    ∧ digits ≠ [] ∧ Digits.AreDigits digits
    ∧ Nat.ofDigits 10 (digits.map Digits.worth).reverse = n.toNat
    ∧ text.toList = before ++ (sign ++ digits) ++ after

namespace Settings

/-- A variable of the environment is set to a number. -/
def Holds (environment : Environment) (name : String) (n : UInt64) : Prop :=
  ∃ text, environment name = some text ∧ Text.Spells text n

lemma setting?_eq_some_iff {environment : Environment} {name : String} {n : UInt64} :
    setting? environment name = some n ↔ Holds environment name n := by
  simp only [setting?, Option.bind_eq_bind, Option.bind_eq_some_iff, Option.pure_def,
    Option.some.injEq]
  constructor
  · rintro ⟨text, hset, m, hread, rfl⟩
    obtain ⟨sign, digits, hsign, hne, hdigits, rfl, hlt, htrim⟩ := Digits.unsigned?_eq_some.1 hread
    obtain ⟨before, after, hbefore, hafter, htext⟩ := Text.exists_trimChars text.toList
    refine ⟨text, hset, before, sign, digits, after, hbefore, hafter, hsign, hne, hdigits, ?_, ?_⟩
    · rw [← Digits.value_eq_ofDigits, UInt64.toNat_ofNat_of_lt' hlt]
    · rw [← htrim]
      exact htext
  · rintro ⟨text, hset, before, sign, digits, after, hbefore, hafter, hsign, hne, hdigits, hvalue,
      htext⟩
    have hmiddle : ∀ c ∈ sign ++ digits, Text.isBlank c = false := by
      refine List.forall_mem_append.2 ⟨?_, fun c hc => Text.isBlank_of_isDigit (hdigits c hc)⟩
      rcases hsign with rfl | rfl
      · exact List.forall_mem_nil _
      · exact List.forall_mem_singleton.2 rfl
    have htrim : Text.trimChars text.toList = sign ++ digits := by
      rw [htext]
      exact Text.trimChars_append hbefore hmiddle (List.append_ne_nil_of_right_ne_nil _ hne) hafter
    rw [← Digits.value_eq_ofDigits] at hvalue
    refine ⟨text, hset, n.toNat, ?_, UInt64.ofNat_toNat⟩
    exact Digits.unsigned?_eq_some.2 ⟨sign, digits, hsign, hne, hdigits, hvalue, n.toNat_lt, htrim⟩

/-- A value after a look at a variable: what is made of its number, or else what it was. -/
structure Replaced {α : Type} (environment : Environment) (name : String) (make : UInt64 → α)
    (before after : α) : Prop where
  held : ∀ n, Holds environment name n → after = make n
  unheld : (∀ n, ¬ Holds environment name n) → after = before

/-- Settings after a look into the environment. -/
structure Overridden (environment : Environment) (s t : Settings) : Prop where
  maxMessageSize :
    Replaced environment "EDGEWIRE_MAX_MESSAGE_SIZE" id s.maxMessageSize t.maxMessageSize
  requestTimeout :
    Replaced environment "EDGEWIRE_REQUEST_TIMEOUT_MS"
      (fun milliseconds => if milliseconds = 0 then none else some milliseconds)
      s.requestTimeout t.requestTimeout
  implicitLimit :
    Replaced environment "EDGEWIRE_IMPLICIT_LIMIT" some s.implicitLimit t.implicitLimit
  readBufferCapacity : t.readBufferCapacity = s.readBufferCapacity
  codecCacheSize : t.codecCacheSize = s.codecCacheSize
  implicitTypenames : t.implicitTypenames = s.implicitTypenames
  allowCapabilities : t.allowCapabilities = s.allowCapabilities

lemma replaced_iff {α : Type} {environment : Environment} {name : String} {make : UInt64 → α}
    {before after : α} :
    Replaced environment name make before after
      ↔ after = ((setting? environment name).map make).getD before := by
  cases hsetting : setting? environment name with
  | none =>
    have hunheld : ∀ n, ¬ Holds environment name n := by
      intro n hn
      rw [setting?_eq_some_iff.2 hn] at hsetting
      cases hsetting
    exact ⟨fun h => h.unheld hunheld, fun h => ⟨fun n hn => absurd hn (hunheld n), fun _ => h⟩⟩
  | some n =>
    have hheld := setting?_eq_some_iff.1 hsetting
    refine ⟨fun h => h.held n hheld, fun h => ⟨fun m hm => ?_, fun hnone => absurd hheld (hnone n)⟩⟩
    rw [setting?_eq_some_iff.2 hm] at hsetting
    rw [Option.some.inj hsetting]
    exact h

attribute [ext] Settings

/-- A look into the environment comes to this, and to nothing else. -/
lemma overridden_iff {environment : Environment} {s t : Settings} :
    Overridden environment s t ↔ t = s.override environment := by
  have hsize : (s.override environment).maxMessageSize
      = ((setting? environment "EDGEWIRE_MAX_MESSAGE_SIZE").map id).getD s.maxMessageSize := by
    rw [Option.map_id]
    rfl
  have htimeout : (s.override environment).requestTimeout
      = ((setting? environment "EDGEWIRE_REQUEST_TIMEOUT_MS").map fun milliseconds =>
        if milliseconds = 0 then none else some milliseconds).getD s.requestTimeout := by
    rw [override]
    cases setting? environment "EDGEWIRE_REQUEST_TIMEOUT_MS" <;> rfl
  have hlimit : (s.override environment).implicitLimit
      = ((setting? environment "EDGEWIRE_IMPLICIT_LIMIT").map some).getD s.implicitLimit := by
    rw [override]
    cases setting? environment "EDGEWIRE_IMPLICIT_LIMIT" <;> rfl
  constructor
  · intro h
    ext1
    · rw [hsize, ← replaced_iff]
      exact h.maxMessageSize
    · exact h.readBufferCapacity
    · rw [htimeout, ← replaced_iff]
      exact h.requestTimeout
    · exact h.codecCacheSize
    · rw [hlimit, ← replaced_iff]
      exact h.implicitLimit
    · exact h.implicitTypenames
    · exact h.allowCapabilities
  · rintro rfl
    exact ⟨replaced_iff.2 hsize, replaced_iff.2 htimeout, replaced_iff.2 hlimit, rfl, rfl, rfl, rfl⟩

/-! ## Numbers in files -/

/-- The numbers among settings. -/
def numbers (s : Settings) : List UInt64 :=
  [s.maxMessageSize, s.readBufferCapacity] ++ s.requestTimeout.toList ++ [s.codecCacheSize]
    ++ s.implicitLimit.toList ++ s.allowCapabilities.toList

lemma text?_integer_eq_none_iff {n : UInt64} :
    (integer n).text? = none ↔ Int64.maxValue.toInt < n.toNat := by
  simp [integer, Toml.Value.text?, Toml.isInteger]

/-- **Settings cannot be written** when one of their numbers is too large for the format. -/
lemma text?_eq_none_iff (s : Settings) :
    s.text? = none ↔ ∃ n ∈ s.numbers, Int64.maxValue.toInt < n.toNat := by
  have hboolean (b : Bool) : (Toml.Value.boolean b).text? ≠ none := by
    cases b <;> exact Option.some_ne_none _
  rw [text?, Toml.render?_eq_none_iff]
  cases htimeout : s.requestTimeout <;> cases hlimit : s.implicitLimit <;>
    cases hcapabilities : s.allowCapabilities <;>
    simp [entries, numbers, htimeout, hlimit, hcapabilities, hboolean, text?_integer_eq_none_iff]

/-- The keys under which settings are kept. -/
def keys : List String :=
  ["max_message_size", "read_buffer_capacity", "request_timeout_ms", "codec_cache_size",
    "implicit_limit", "implicit_typenames", "allow_capabilities"]

lemma isBare_of_mem_keys {key : String} (h : key ∈ keys) : Toml.IsBare key := by
  have hall : keys.all fun key => decide (Toml.IsBare key) := by decide +kernel
  exact of_decide_eq_true (List.all_eq_true.1 hall key h)

lemma nodup_keys : keys.Nodup := by
  decide +kernel

/-- Settings that are not set are left out, the others keep their order. -/
lemma sublist_keys (s : Settings) : (s.entries.map Prod.fst).Sublist keys := by
  cases htimeout : s.requestTimeout <;> cases hlimit : s.implicitLimit <;>
    cases hcapabilities : s.allowCapabilities <;>
    simp [entries, keys, htimeout, hlimit, hcapabilities]

/-- The document of settings. -/
def document (s : Settings) : Toml.Document :=
  ⟨s.entries.map fun entry => (entry.1, .value entry.2)⟩

lemma parse?_text? {s : Settings} {text : String} (h : s.text? = some text) :
    Toml.parse? text = some s.document := by
  refine Toml.parse?_render? h (fun entry hentry => ?_) (s.sublist_keys.nodup nodup_keys)
  exact isBare_of_mem_keys (s.sublist_keys.subset (List.mem_map_of_mem hentry))

/-- The document tells the settings, also those that are left out. -/
lemma ofDocument?_document (s : Settings) : ofDocument? s.document = some s := by
  obtain ⟨size, buffer, timeout, cache, limit, typenames, capabilities⟩ := s
  cases timeout <;> cases limit <;> cases capabilities <;>
    simp [ofDocument?, document, entries, number?, boolean?, Toml.Document.get?, integer,
      List.lookup_cons]

lemma ofText_of_text? {s : Settings} {text : String} (h : s.text? = some text)
    (environment : Environment) : ofText environment text = (s.override environment).checked := by
  rw [ofText, parse?_text? h, Option.bind_some, ofDocument?_document]

/-- An environment without the three variables changes nothing. -/
lemma override_of_unset {environment : Environment}
    (hsize : environment "EDGEWIRE_MAX_MESSAGE_SIZE" = none)
    (htimeout : environment "EDGEWIRE_REQUEST_TIMEOUT_MS" = none)
    (hlimit : environment "EDGEWIRE_IMPLICIT_LIMIT" = none) (s : Settings) :
    s.override environment = s := by
  simp [override, setting?, hsize, htimeout, hlimit]

/-- **Settings survive their file.**  Settings that can be used are written unless one of their
numbers is too large for the format.  What is read of the text are the same settings when no
variable is set, and else the settings with what the variables hold in their place: these when they
can be used, and an error that says why when they cannot. -/
theorem survives_file (s : Settings) (hs : s.fault? = none) :
    (s.text? = none ↔ ∃ n ∈ s.numbers, Int64.maxValue.toInt < n.toNat)
    ∧ ∀ text, s.text? = some text → ∀ environment,
        (environment "EDGEWIRE_MAX_MESSAGE_SIZE" = none
            → environment "EDGEWIRE_REQUEST_TIMEOUT_MS" = none
            → environment "EDGEWIRE_IMPLICIT_LIMIT" = none → ofText environment text = .ok s)
          ∧ (∃! t, Overridden environment s t)
          ∧ ∀ t, Overridden environment s t →
            (t.fault? = none → ofText environment text = .ok t)
            ∧ ∀ fault, t.fault? = some fault →
              ofText environment text = .error (.config fault) := by
  refine ⟨s.text?_eq_none_iff, fun text htext environment => ⟨?_, ?_, ?_⟩⟩
  · intro hsize htimeout hlimit
    rw [ofText_of_text? htext, override_of_unset hsize htimeout hlimit, checked, hs]
  · exact ⟨s.override environment, overridden_iff.2 rfl, fun t ht => overridden_iff.1 ht⟩
  · intro t ht
    rw [ofText_of_text? htext, ← overridden_iff.1 ht, checked]
    refine ⟨fun hfault => ?_, fun fault hfault => ?_⟩ <;> rw [hfault]

/-- Settings in which everything is set. -/
def full : Settings where
  maxMessageSize := 4096
  readBufferCapacity := 2048
  requestTimeout := some 500
  codecCacheSize := 10
  implicitLimit := some 100
  implicitTypenames := true
  allowCapabilities := some 5

/-- What is written of them. -/
def fullText : String :=
  "max_message_size = 4096\nread_buffer_capacity = 2048\nrequest_timeout_ms = 500\n"
    ++ "codec_cache_size = 10\nimplicit_limit = 100\nimplicit_typenames = true\n"
    ++ "allow_capabilities = 5\n"

/-- An environment in which all three variables are set. -/
def surroundings (size timeout limit : String) : Environment := fun name =>
  [("EDGEWIRE_MAX_MESSAGE_SIZE", size), ("EDGEWIRE_REQUEST_TIMEOUT_MS", timeout),
    ("EDGEWIRE_IMPLICIT_LIMIT", limit)].lookup name

/-- The settings with a number of each variable. -/
def replaced : Settings :=
  { full with maxMessageSize := 65536, requestTimeout := none, implicitLimit := some 250 }

/-- The settings with a size that leaves no room for a message. -/
def narrowed : Settings := { full with maxMessageSize := 4 }

/-- These settings are read as they were written.  Numbers in the environment replace what the file
says, a timeout of zero with none, and may make the settings unusable; what is no number leaves them
as they are. -/
theorem survives_file_full :
    full.fault? = none ∧ full.text? = some fullText
      ∧ ofText (fun _ => none) fullText = .ok full
      ∧ Overridden (surroundings " 65536\t" "0" "+250") full replaced
      ∧ ofText (surroundings " 65536\t" "0" "+250") fullText = .ok replaced
      ∧ Overridden (surroundings "4" "soon" "-1") full narrowed
      ∧ ofText (surroundings "4" "soon" "-1") fullText = .error (.config (.messageSize 4)) := by
  have husable : full.fault? = none := rfl
  have htext : full.text? = some fullText := by decide +kernel
  have hreplaced : Overridden (surroundings " 65536\t" "0" "+250") full replaced :=
    overridden_iff.2 (by decide +kernel)
  have hnarrowed : Overridden (surroundings "4" "soon" "-1") full narrowed :=
    overridden_iff.2 (by decide +kernel)
  have hread := (full.survives_file husable).2 fullText htext
  refine ⟨husable, htext, (hread _).1 rfl rfl rfl, hreplaced, ?_, hnarrowed, ?_⟩
  · exact ((hread _).2.2 replaced hreplaced).1 rfl
  · exact ((hread _).2.2 narrowed hnarrowed).2 _ rfl

end Settings

end QueryWire
