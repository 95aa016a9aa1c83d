/-
When blanks in the environment matter.

All three ways to read a variable see its `value?`: nothing if it is missing
or blank, its text without the blanks at its ends otherwise
(`optional?_eq`, `required_toOption`). So whatever is read that way takes a
blank variable for a missing one and passes over blanks around a value
(`Settings.Alike.of_values`). The addresses of the two other services are
taken as they stand (`blanks_matter_in_addresses_only`).
-/
import Parley.Settings

namespace Parley

open Text (isBlank blank trim trimStart trimEnd trimmed)

/-! ## Blanks around a text -/

namespace Text

variable {before after s : List Char}

theorem trimStart_append_of_blank (h : before.all isBlank = true) :
    trimStart (before ++ s) = trimStart s :=
  List.dropWhile_append_of_pos (List.all_eq_true.mp h)

theorem trimEnd_append_of_blank (h : after.all isBlank = true) : trimEnd (s ++ after) = trimEnd s := by
  rw [trimEnd, List.reverse_append, ← trimStart,
    trimStart_append_of_blank (by rwa [List.all_reverse]), trimStart, trimEnd]

theorem trim_padded (hbefore : before.all isBlank = true) (hafter : after.all isBlank = true) :
    trim (before ++ s ++ after) = trim s := by
  rw [trim, List.append_assoc, trimStart_append_of_blank hbefore, trimStart, List.dropWhile_append]
  split
  · next hs =>
    have hs : trimStart s = [] := List.isEmpty_iff.mp hs
    rw [trim, hs, ← trimStart, (trimStart_eq_nil_iff after).mpr hafter]
  · rw [trimEnd_append_of_blank hafter]
    rfl

end Text

namespace Environment

variable {α : Type} {env env' : Environment} {name other : String}

/-! ## What is seen of a variable -/

/-- The environment with a variable set. -/
def set (env : Environment) (name value : String) : Environment :=
  ⟨fun other => if other = name then some value else env.get? other⟩

/-- The environment without a variable. -/
def unset (env : Environment) (name : String) : Environment :=
  ⟨fun other => if other = name then none else env.get? other⟩

theorem get?_set_self (env : Environment) (name value : String) : (env.set name value).get? name = some value :=
  if_pos rfl

theorem get?_unset_self (env : Environment) (name : String) : (env.unset name).get? name = none := if_pos rfl

theorem get?_set_of_ne (value : String) (h : other ≠ name) :
    (env.set name value).get? other = (env.unset name).get? other := by
  simp only [set, unset, if_neg h]

/-- The text of a variable that is set and not blank, without the blanks at its ends. -/
def value? (env : Environment) (name : String) : Option String :=
  (env.get? name).bind fun raw => if blank raw then none else some (trimmed raw)

theorem value?_congr (h : env.get? name = env'.get? name) : env.value? name = env'.value? name := by
  rw [value?, value?, h]

theorem value?_set_of_ne (value : String) (h : other ≠ name) :
    (env.set name value).value? other = (env.unset name).value? other :=
  value?_congr (get?_set_of_ne value h)

theorem value?_set_blank {value : String} (h : blank value = true) :
    (env.set name value).value? name = (env.unset name).value? name := by
  rw [value?, value?, get?_set_self, get?_unset_self, Option.bind_some, if_pos h, Option.bind_none]

theorem blank_padded {before value after : String} (hbefore : blank before = true)
    (hafter : blank after = true) : blank (before ++ value ++ after) = blank value := by
  simp only [blank, String.toList_append, List.all_append] at hbefore hafter ⊢
  rw [hbefore, hafter, Bool.true_and, Bool.and_true]

theorem value?_set_padded {before value after : String} (hbefore : blank before = true)
    (hafter : blank after = true) :
    (env.set name (before ++ value ++ after)).value? name = (env.set name value).value? name := by
  have htrimmed : trimmed (before ++ value ++ after) = trimmed value := by
    rw [trimmed, String.toList_append, String.toList_append, Text.trim_padded hbefore hafter, trimmed]
  simp only [value?, get?_set_self, Option.bind_some, blank_padded hbefore hafter, htrimmed]

/-! ## Reading variables -/

theorem optional?_eq (read : String → Option α) (env : Environment) (name : String) :
    env.optional? read name = (env.value? name).bind read := by
  unfold optional? value?
  cases env.get? name with
  | none => rfl
  | some raw =>
    by_cases h : blank raw = true
    · simp [h]
    · simp [h]

theorem required_toOption (read : String → Option α) (env : Environment) (name : String) :
    (env.required read name).toOption = env.optional? read name := by
  unfold required optional?
  cases env.get? name with
  | none => rfl
  | some raw =>
    by_cases h : blank raw = true
    · simp [h, Except.toOption]
    · cases hread : read (trimmed raw) with
      | none => simp [h, hread, Except.toOption]
      | some a => simp [h, hread, Except.toOption]

theorem withDefault_eq (read : String → Option α) (env : Environment) (name : String) (absent : α) :
    env.withDefault read name absent = ((env.required read name).toOption).getD absent := by
  rw [withDefault, required_toOption]

theorem optional?_congr (read : String → Option α) (h : env.value? name = env'.value? name) :
    env.optional? read name = env'.optional? read name := by
  rw [optional?_eq, optional?_eq, h]

theorem required_congr (read : String → Option α) (h : env.value? name = env'.value? name) :
    (∃ a, env.required read name = .ok a ∧ env'.required read name = .ok a) ∨
      ∃ reason reason', env.required read name = .error reason ∧ env'.required read name = .error reason' := by
  have hsame : (env.required read name).toOption = (env'.required read name).toOption := by
    rw [required_toOption, required_toOption, optional?_eq, optional?_eq, h]
  cases hread : env.required read name with
  | error reason =>
    cases hread' : env'.required read name with
    | error reason' => exact .inr ⟨reason, reason', rfl, rfl⟩
    | ok a => simp [hread, hread', Except.toOption] at hsame
  | ok a =>
    cases hread' : env'.required read name with
    | error reason => simp [hread, hread', Except.toOption] at hsame
    | ok a' =>
      simp only [hread, hread', Except.toOption, Option.some.injEq] at hsame
      exact .inl ⟨a, rfl, by rw [hsame]⟩

end Environment

namespace Settings

open Environment (natural)

variable {env env' : Environment}

/-! ## The settings of an environment -/

/-- The same settings, or no settings for reasons of the configuration. -/
def Alike (r r' : Except Failure Settings) : Prop :=
  r = r' ∨ ∃ reason reason', r = .error (.configuration reason) ∧ r' = .error (.configuration reason')

theorem seconds_congr {name : String} (h : env.value? name = env'.value? name) (absent : Milliseconds) :
    seconds env name absent = seconds env' name absent := by
  rw [seconds, seconds, Environment.optional?_congr _ h]

theorem count_congr {name : String} (h : env.value? name = env'.value? name) (absent : Nat) :
    count env name absent = count env' name absent := by
  rw [count, count, Environment.withDefault, Environment.withDefault, Environment.optional?_congr _ h]

/-- The variables of which only the value is seen. -/
def names : List String :=
  ["JWT_SECRET", "PORT", "DATABASE_URL", "INTERNAL_API_KEY", "MESSAGE_RECALL_WINDOW_SECS",
    "MESSAGE_MAX_CONTENT_BYTES", "PUSH_TIMEOUT_MS", "HUB_OUTBOUND_QUEUE", "HUB_REAP_INTERVAL_SECS",
    "HUB_STALE_AFTER_SECS", "WS_PING_INTERVAL_SECS", "WS_CLIENT_TIMEOUT_SECS", "WS_MAX_FRAME_BYTES"]

/-- The variables that hold the addresses of the two other services. -/
def addresses : List String := ["FRIEND_SERVICE_URL", "USER_SERVICE_URL"]

/-- The settings with the addresses of an environment. -/
def relocated (env : Environment) (s : Settings) : Settings :=
  { s with
    friendService := (env.get? "FRIEND_SERVICE_URL").getD "http://friend-service:8080"
    userService := (env.get? "USER_SERVICE_URL").getD "http://user-service:8080" }

section
variable (h : ∀ name ∈ names, env.value? name = env'.value? name)
include h

theorem messageOf_congr : messageOf env = messageOf env' := by
  rw [messageOf, messageOf, seconds_congr (h "MESSAGE_RECALL_WINDOW_SECS" (by decide)),
    count_congr (h "MESSAGE_MAX_CONTENT_BYTES" (by decide)), count_congr (h "PUSH_TIMEOUT_MS" (by decide))]

theorem hubOf_congr : hubOf env = hubOf env' := by
  rw [hubOf, hubOf, count_congr (h "HUB_OUTBOUND_QUEUE" (by decide)),
    seconds_congr (h "HUB_REAP_INTERVAL_SECS" (by decide)), seconds_congr (h "HUB_STALE_AFTER_SECS" (by decide))]

theorem socketOf_congr : socketOf env = socketOf env' := by
  rw [socketOf, socketOf, seconds_congr (h "WS_PING_INTERVAL_SECS" (by decide)),
    seconds_congr (h "WS_CLIENT_TIMEOUT_SECS" (by decide)), count_congr (h "WS_MAX_FRAME_BYTES" (by decide))]

/-- **Environments in which the variables have the same values give the same settings** but
for the addresses, which are those of each environment. -/
theorem ofEnvironment_congr :
    Alike (ofEnvironment env') ((ofEnvironment env).map fun s => s.relocated env') := by
  have hport : env.withDefault (natural .word16) "PORT" 8005 = env'.withDefault (natural .word16) "PORT" 8005 := by
    rw [Environment.withDefault, Environment.withDefault, Environment.optional?_congr _ (h "PORT" (by decide))]
  have hurl := Environment.optional?_congr Environment.text (h "DATABASE_URL" (by decide))
  have hkey := Environment.optional?_congr Environment.text (h "INTERNAL_API_KEY" (by decide))
  rcases Environment.required_congr Environment.text (h "JWT_SECRET" (by decide)) with
    ⟨secret, hsecret, hsecret'⟩ | ⟨reason, reason', hreason, hreason'⟩
  · refine .inl ?_
    simp only [ofEnvironment, hsecret, hsecret', hport, hurl, hkey, messageOf_congr h, hubOf_congr h,
      socketOf_congr h]
    split
    · rfl
    split
    · rfl
    split
    · rfl
    · rfl
  · refine .inr ⟨reason', reason, ?_, ?_⟩
    · simp only [ofEnvironment, hreason']
    · simp only [ofEnvironment, hreason, Except.map]

end

theorem map_relocated (env : Environment) :
    (ofEnvironment env).map (fun s => s.relocated env) = ofEnvironment env := by
  unfold ofEnvironment
  split
  · rfl
  · simp only
    split
    · rfl
    split
    · rfl
    split
    · rfl
    · rfl

theorem relocated_of_ok {s : Settings} (h : ofEnvironment env = .ok s) : s.relocated env = s := by
  have hmap := map_relocated env
  rw [h] at hmap
  exact Except.ok.inj hmap

theorem ofEnvironment_set_address {name value : String} {change : Settings → Settings} (hname : name ∉ names)
    (h : ∀ s, ofEnvironment (env.unset name) = .ok s → s.relocated (env.set name value) = change s) :
    Alike (ofEnvironment (env.set name value)) ((ofEnvironment (env.unset name)).map change) := by
  have hvalues : ∀ other ∈ names, (env.unset name).value? other = (env.set name value).value? other :=
    fun other hother => (Environment.value?_set_of_ne value (ne_of_mem_of_not_mem hother hname)).symm
  have hcongr := ofEnvironment_congr hvalues
  cases hunset : ofEnvironment (env.unset name) with
  | error failure => rwa [hunset] at hcongr
  | ok s =>
    rw [hunset, Except.map, h s hunset] at hcongr
    exact hcongr

theorem Alike.of_values (h : ∀ name ∈ names, env.value? name = env'.value? name)
    (haddresses : ∀ name ∈ addresses, env.get? name = env'.get? name) :
    Alike (ofEnvironment env) (ofEnvironment env') := by
  have hsame (s : Settings) : s.relocated env = s.relocated env' := by
    rw [relocated, relocated, haddresses "FRIEND_SERVICE_URL" (by decide),
      haddresses "USER_SERVICE_URL" (by decide)]
  have hcongr := ofEnvironment_congr fun name hname => (h name hname).symm
  simpa only [hsame, map_relocated] using hcongr

theorem Alike.of_variable {name : String} (hname : name ∉ addresses)
    (hothers : ∀ other, other ≠ name → env.get? other = env'.get? other)
    (hvalue : env.value? name = env'.value? name) : Alike (ofEnvironment env) (ofEnvironment env') := by
  refine .of_values (fun other _ => ?_) fun other hother =>
    hothers other (ne_of_mem_of_not_mem hother hname)
  by_cases h : other = name
  · exact h ▸ hvalue
  · exact Environment.value?_congr (hothers other h)

/-- **A blank variable is an unset one and blanks around a value do not matter, but in the
addresses of the two other services**: these are taken as they stand, blank or not. The
three ways to read a variable agree on what there is to read, for every kind of value. -/
theorem blanks_matter_in_addresses_only (env : Environment) (name value : String) :
    (name ∉ addresses →
      (blank value = true → Alike (ofEnvironment (env.set name value)) (ofEnvironment (env.unset name))) ∧
      ∀ before after : String, blank before = true → blank after = true →
        Alike (ofEnvironment (env.set name (before ++ value ++ after))) (ofEnvironment (env.set name value))) ∧
    (Alike (ofEnvironment (env.set "FRIEND_SERVICE_URL" value))
        ((ofEnvironment (env.unset "FRIEND_SERVICE_URL")).map fun s => { s with friendService := value }) ∧
      Alike (ofEnvironment (env.set "USER_SERVICE_URL" value))
        ((ofEnvironment (env.unset "USER_SERVICE_URL")).map fun s => { s with userService := value })) ∧
    ∀ (α : Type) (read : String → Option α),
      env.optional? read name = (env.required read name).toOption ∧
      ∀ absent, env.withDefault read name absent = ((env.required read name).toOption).getD absent := by
  refine ⟨fun hname => ⟨fun hblank => ?_, fun before after hbefore hafter => ?_⟩, ⟨?_, ?_⟩,
    fun α read => ⟨?_, fun absent => ?_⟩⟩
  · exact .of_variable hname (fun other h => Environment.get?_set_of_ne value h)
      (Environment.value?_set_blank hblank)
  · exact .of_variable hname
      (fun other h => (Environment.get?_set_of_ne _ h).trans (Environment.get?_set_of_ne value h).symm)
      (Environment.value?_set_padded hbefore hafter)
  · exact ofEnvironment_set_address (by decide) fun s hs => by
      rw [← relocated_of_ok hs]
      simp [relocated, Environment.set, Environment.unset]
  · exact ofEnvironment_set_address (by decide) fun s hs => by
      rw [← relocated_of_ok hs]
      simp [relocated, Environment.set, Environment.unset]
  · rw [Environment.required_toOption]
  · exact Environment.withDefault_eq read env name absent

/-- An environment that names a secret and no more. -/
def secretOnly : Environment := .ofList [("JWT_SECRET", "0123456789abcdef0123")]

/-- A blank port is no port, and blanks around one are passed over. -/
theorem blank_port :
    Alike (ofEnvironment (secretOnly.set "PORT" " ")) (ofEnvironment (secretOnly.unset "PORT")) ∧
      Alike (ofEnvironment (secretOnly.set "PORT" "\t9000 ")) (ofEnvironment (secretOnly.set "PORT" "9000")) :=
  ⟨((blanks_matter_in_addresses_only secretOnly "PORT" " ").1 (by decide)).1 (by decide),
    ((blanks_matter_in_addresses_only secretOnly "PORT" "9000").1 (by decide)).2 "\t" " " (by decide) (by decide)⟩

/-- **A blank address is not taken for a missing one**: it is where the friend service is
looked for. -/
theorem blank_address_is_kept :
    ¬Alike (ofEnvironment (secretOnly.set "FRIEND_SERVICE_URL" " "))
      (ofEnvironment (secretOnly.unset "FRIEND_SERVICE_URL")) := by
  have hset : (ofEnvironment (secretOnly.set "FRIEND_SERVICE_URL" " ")).toOption.map (·.friendService) =
      some " " := by decide +kernel
  have hunset : (ofEnvironment (secretOnly.unset "FRIEND_SERVICE_URL")).toOption.map (·.friendService) =
      some "http://friend-service:8080" := by decide +kernel
  rintro (h | ⟨reason, reason', h, -⟩)
  · rw [h, hunset] at hset
    exact absurd hset (by decide)
  · rw [h] at hset
    cases hset

end Settings
end Parley
