import Mathlib.Tactic.Linarith
import TgWsProxy.Lib.Runs
import TgWsProxy.Python.VersionOrder

/-!
# The update check

`run_check` of `utils/update_check.py` asks for the latest release at most once
an hour, and remembers in a file when it has asked and what it was told.  It
relies on the shape of the JSON body, and an exception which its `except` does
not list leaves the attempt unrecorded.
-/

namespace TgWsProxy.Python

open Lib

/-- `time.time()`, the seconds since an epoch in the past. -/
abbrev Clock := { seconds : Rat // 0 < seconds }

/-- `_MIN_FETCH_INTERVAL_SEC`. -/
def minFetchIntervalSec : Rat := 3600

/-- What `_save_cache` writes; a key which was not set has no value. -/
structure UpdateCache where
  lastAttemptAt : Option Rat
  etag : Option PyStr
  tagName : Option PyStr
  htmlUrl : Option PyStr
  assets : Option (List Asset)
  lastError : Option PyStr

def UpdateCache.empty : UpdateCache := ⟨none, none, none, none, none, none⟩

inductive CacheFile where
  | missing
  /-- It has been cut off and is no JSON text. -/
  | damaged
  | stored (cache : UpdateCache)

/-- What the file system does for a call. -/
inductive FileAccess where
  | works
  /-- `_cache_file` returns `None`, or the file cannot be opened. -/
  | unavailable
  /-- The file can be read, and `write_text` raises `OSError`. -/
  | writeFails (damages : Bool)
deriving DecidableEq, Repr

/-- `_load_cache`. -/
def loadCache : FileAccess → CacheFile → UpdateCache
  | .unavailable, _ => .empty
  | _, .missing => .empty
  | _, .damaged => .empty
  | _, .stored cache => cache

/-- `_save_cache`, which ignores an `OSError`. -/
def saveCache (access : FileAccess) (file : CacheFile) (cache : UpdateCache) :
    CacheFile :=
  match access with
  | .works => .stored cache
  | .unavailable => file
  | .writeFails damages => if damages then .damaged else file

/-- The exceptions which `run_check` lets through. -/
inductive CheckError where
  | attributeError
  | typeError
  | assertionError
  /-- An exception of the request which is neither an `OSError` nor a
  `ValueError`, such as those of `http.client`. -/
  | unforeseen
deriving DecidableEq, Repr

/-- What becomes of the request. -/
inductive Response where
  | body (data : JsonValue) (etag : Option PyStr) (code : Nat)
  | httpError (code : Nat) (etag : Option PyStr) (text : PyStr)
  /-- A `URLError`, an `OSError`, a `TimeoutError`, or a `ValueError` such as
  that of a body which is no JSON text. -/
  | listedError (text : PyStr)
  | unforeseen

inductive FetchError where
  | http (code : Nat) (text : PyStr)
  | listed (text : PyStr)
  | unforeseen

/-- `left or right` of texts which may be missing. -/
def orText (left right : Option PyStr) : Option PyStr :=
  (left.filter (· ≠ [])).or right

/-- `fetch_latest_release`. -/
def fetchLatestRelease (etag : Option PyStr) :
    Response → Except FetchError (JsonValue × Option PyStr × Nat)
  | .body data newEtag code => .ok (data, newEtag, code)
  | .httpError code newEtag text =>
      if code = 304 then .ok (.none, orText newEtag etag, 304)
      else .error (.http code text)
  | .listedError text => .error (.listed text)
  | .unforeseen => .error .unforeseen

def rateLimitedText : PyStr :=
  "GitHub API вернул 403 (лимит или доступ). Повторите позже.".toList

def delayedText : PyStr :=
  "Проверка обновлений отложена (интервал между запросами).".toList

/-- `msg`, if the `except` lists the class of the exception. -/
def caughtText : FetchError → Option PyStr
  | .http code text => some (if code = 403 then rateLimitedText else text)
  | .listed text => some text
  | .unforeseen => none

/-- `(value or "").strip()`. -/
def strippedText (value : JsonValue) : Except CheckError PyStr :=
  if value.truthy = false then .ok []
  else
    match value with
    | .str text => .ok (PyStr.strip text.toList)
    | _ => .error .attributeError

/-- `data.get(key)`. -/
def fieldOf (items : List (String × JsonValue)) (key : String) : JsonValue :=
  (items.lookup key).getD .none

/-- `data.get(key, "")`. -/
def fieldOrEmpty (items : List (String × JsonValue)) (key : String) :
    JsonValue :=
  (items.lookup key).getD (.str "")

/-- A pass of the comprehension; an asset without a name or an address is left
out. -/
def releaseAsset (assets : List Asset) : JsonValue →
    Except CheckError (List Asset)
  | .dict a =>
      if (fieldOf a "name").truthy && (fieldOf a "browser_download_url").truthy
      then .ok (assets ++ [⟨fieldOrEmpty a "name",
        fieldOrEmpty a "browser_download_url", fieldOrEmpty a "digest"⟩])
      else .ok assets
  | _ => .error .attributeError

/-- The comprehension over `data.get("assets") or []`; a text and a dictionary
yield texts. -/
def releaseAssets (value : JsonValue) : Except CheckError (List Asset) :=
  if value.truthy = false then .ok []
  else
    match value with
    | .list items => items.foldlM releaseAsset []
    | .str _ | .dict _ => .error .attributeError
    | _ => .error .typeError

/-- The four assignments for a release which is not known. -/
def UpdateState.withoutRelease (state : UpdateState) (htmlUrl : PyStr) :
    UpdateState :=
  { state with
    hasUpdate := false
    aheadOfRelease := false
    latest := none
    htmlUrl := some htmlUrl }

/-- The part of `run_check` behind the answer 304. -/
def readRelease (table : DigitTable) (currentVersion : PyStr)
    (data : JsonValue) (newEtag : Option PyStr) (cache : UpdateCache)
    (state : UpdateState) : Except CheckError UpdateCache × UpdateState :=
  match data with
  | .none => (.error .assertionError, state)
  | .dict data =>
      match strippedText (fieldOf data "tag_name") with
      | .error error => (.error error, state)
      | .ok tag =>
          match strippedText (fieldOf data "html_url") with
          | .error error => (.error error, state)
          | .ok url =>
              let htmlUrl := if url = [] then releasesPageUrl else url
              let state :=
                if tag = [] then state.withoutRelease htmlUrl
                else applyReleaseTag table tag htmlUrl currentVersion state
              match releaseAssets (fieldOf data "assets") with
              | .error error => (.error error, state)
              | .ok assets =>
                  (.ok { cache with
                      etag := orText newEtag cache.etag
                      tagName := some tag
                      htmlUrl := some htmlUrl
                      assets := some assets
                      lastError := none },
                    { state with assets })
  | _ => (.error .attributeError, state)

/-- A call of `run_check`, with what it meets. -/
structure CheckCall where
  currentVersion : PyStr
  now : Clock
  access : FileAccess
  response : Response

/-- What a call leaves. -/
structure Ran where
  result : Except CheckError Unit
  state : UpdateState
  file : CacheFile
  fetched : Bool

/-- `last_attempt and (now - last_attempt) < _MIN_FETCH_INTERVAL_SEC`. -/
def heldBack (cache : UpdateCache) (now : Clock) : Bool :=
  let lastAttempt := cache.lastAttemptAt.getD 0
  lastAttempt != 0 && now.val - lastAttempt < minFetchIntervalSec

/-- `(cache.get(key) or "").strip()`. -/
def cachedText (text : Option PyStr) : PyStr := (text.getD []).strip

/-- `run_check` within the interval. -/
def tellCached (table : DigitTable) (currentVersion : PyStr)
    (cache : UpdateCache) (state : UpdateState) : UpdateState :=
  let tag := cachedText cache.tagName
  if tag ≠ [] then
    { applyReleaseTag table tag (cache.htmlUrl.getD []) currentVersion state with
      assets := cache.assets.getD [] }
  else
    { state with error := orText cache.lastError (some delayedText) }
      |>.withoutRelease releasesPageUrl

/-- `run_check`. -/
def runCheck (table : DigitTable) (call : CheckCall) (state : UpdateState)
    (file : CacheFile) : Ran :=
  let state := { state with checked := true, error := none }
  let cache := loadCache call.access file
  let version := call.currentVersion
  if heldBack cache call.now then
    ⟨.ok (), tellCached table version cache state, file, false⟩
  else
    let etag := some (cachedText cache.etag) |>.filter (· ≠ [])
    let attempted := { cache with lastAttemptAt := some call.now.val }
    match fetchLatestRelease etag call.response with
    | .ok (data, newEtag, code) =>
        if code = 304 then
          let tag := cachedText cache.tagName
          let url := urlOrPage (cache.htmlUrl.getD [])
          let cache := { attempted with etag := orText newEtag cache.etag }
          ⟨.ok (),
            { applyReleaseTag table tag url version state with
              assets := cache.assets.getD [] },
            saveCache call.access file cache, true⟩
        else
          match readRelease table version data newEtag attempted state with
          | (.error error, state) => ⟨.error error, state, file, true⟩
          | (.ok cache, state) =>
              ⟨.ok (), state, saveCache call.access file cache, true⟩
    | .error error =>
        match caughtText error with
        | none => ⟨.error .unforeseen, state, file, true⟩
        | some msg =>
            ⟨.ok (),
              { state with error := some msg }
                |>.withoutRelease releasesPageUrl,
              saveCache call.access file { attempted with lastError := some msg },
              true⟩

namespace JsonValue

def isText : JsonValue → Bool
  | .str _ => true
  | _ => false

def isDict : JsonValue → Bool
  | .dict _ => true
  | _ => false

def isListOfDicts : JsonValue → Bool
  | .list items => items.all isDict
  | _ => false

/-- A body in which `tag_name` and `html_url` are texts and `assets` is a list
of objects, as far as they are there and not empty. -/
def isRelease : JsonValue → Bool
  | .dict data =>
      let tagName := fieldOf data "tag_name"
      let htmlUrl := fieldOf data "html_url"
      let assets := fieldOf data "assets"
      (!tagName.truthy || tagName.isText) &&
        (!htmlUrl.truthy || htmlUrl.isText) &&
          (!assets.truthy || assets.isListOfDicts)
  | _ => false

end JsonValue

/-- The answer is no body or the body of a release, and no exception which
`except` does not list. -/
def Response.understood : Response → Bool
  | .body data _ code => code == 304 || data.isRelease
  | .httpError _ _ _ => true
  | .listedError _ => true
  | .unforeseen => false

/-- What the status says of a version. -/
structure UpdateState.Agrees (table : DigitTable) (currentVersion : PyStr)
    (state : UpdateState) : Prop where
  notBoth : ¬ (state.hasUpdate = true ∧ state.aheadOfRelease = true)
  newer : state.hasUpdate = true → ∃ latest, state.latest = some latest ∧
    versionGt table latest currentVersion = true

section Call

variable {table : DigitTable} {version : PyStr}

theorem strippedText_isOk (value : JsonValue) :
    (strippedText value).isOk = (!value.truthy || value.isText) := by
  unfold strippedText
  split
  · rename_i falsy
    simp only [falsy, Bool.not_false, Bool.true_or, Except.isOk, Except.toBool]
  · rename_i truthy
    simp only [Bool.not_eq_false] at truthy
    simp only [truthy, Bool.not_true, Bool.false_or]
    cases value with
    | str text => rfl
    | none | bool value | int value | float value | list items | dict items => rfl

theorem foldlM_releaseAsset_isOk (items : List JsonValue) (assets : List Asset) :
    (items.foldlM releaseAsset assets).isOk = items.all JsonValue.isDict := by
  induction items generalizing assets with
  | nil => rfl
  | cons item items induction =>
      cases item with
      | dict fields =>
          simp only [List.foldlM_cons, releaseAsset, List.all_cons,
            JsonValue.isDict, Bool.true_and]
          split
          · exact induction _
          · exact induction _
      | none | bool value | int value | float value | str text | list items => rfl

theorem releaseAssets_isOk (value : JsonValue) :
    (releaseAssets value).isOk = (!value.truthy || value.isListOfDicts) := by
  unfold releaseAssets
  split
  · rename_i falsy
    simp only [falsy, Bool.not_false, Bool.true_or, Except.isOk, Except.toBool]
  · rename_i truthy
    simp only [Bool.not_eq_false] at truthy
    simp only [truthy, Bool.not_true, Bool.false_or]
    cases value with
    | list items => exact foldlM_releaseAsset_isOk items []
    | none | bool value | int value | float value | str text | dict items => rfl

/-- The body of a release is all that is read without an exception. -/
theorem readRelease_isOk (data : JsonValue) (newEtag : Option PyStr)
    (cache : UpdateCache) (state : UpdateState) :
    (readRelease table version data newEtag cache state).1.isOk =
      data.isRelease := by
  cases data with
  | dict data =>
      simp only [readRelease, JsonValue.isRelease, ← strippedText_isOk,
        ← releaseAssets_isOk]
      cases strippedText (fieldOf data "tag_name") with
      | error error => rfl
      | ok tag =>
          cases strippedText (fieldOf data "html_url") with
          | error error => rfl
          | ok url =>
              cases releaseAssets (fieldOf data "assets") with
              | error error => rfl
              | ok assets => rfl
  | none | bool value | int value | float value | str text | list items => rfl

theorem isOk_iff {result : Except CheckError Unit} :
    result.isOk = true ↔ result = .ok () := by
  cases result with
  | ok done => exact ⟨fun _ => rfl, fun _ => rfl⟩
  | error error =>
      constructor
      · intro never
        cases never
      · intro never
        cases never

/-- A call raises exactly when it asks and does not understand the answer. -/
theorem runCheck_isOk (table : DigitTable) (call : CheckCall) (state : UpdateState)
    (file : CacheFile) :
    (runCheck table call state file).result.isOk =
      (heldBack (loadCache call.access file) call.now ||
        call.response.understood) := by
  simp only [runCheck]
  split
  · rename_i held
    simp only [held, Bool.true_or]
    rfl
  · rename_i due
    simp only [Bool.not_eq_true] at due
    simp only [due, Bool.false_or]
    cases call.response with
    | body data newEtag code =>
        simp only [fetchLatestRelease, Response.understood]
        split
        · rename_i unchanged
          simp only [unchanged, beq_self_eq_true, Bool.true_or]
          rfl
        · rename_i changed
          rw [beq_eq_false_iff_ne.mpr changed, Bool.false_or, ← readRelease_isOk]
          split
          · rename_i raised
            rw [raised]
            rfl
          · rename_i read
            rw [read]
            rfl
    | httpError code newEtag text =>
        simp only [fetchLatestRelease, Response.understood]
        by_cases unchanged : code = 304
        · simp only [if_pos unchanged, if_true]
          rfl
        · simp only [if_neg unchanged, caughtText]
          rfl
    | listedError text => rfl
    | unforeseen => rfl

theorem applyReleaseTag_agrees (tag htmlUrl : PyStr) (state : UpdateState) :
    (applyReleaseTag table tag htmlUrl version state).Agrees table version := by
  refine ⟨applyReleaseTag_not_both tag htmlUrl version state, ?_⟩
  intro update
  unfold applyReleaseTag at update ⊢
  split at update
  · cases update
  · rename_i tagged
    simp only [if_neg tagged]
    exact ⟨lstripV tag, rfl, versionGt_of_stripped update⟩

theorem withoutRelease_agrees (state : UpdateState) (htmlUrl : PyStr) :
    (state.withoutRelease htmlUrl).Agrees table version := by
  constructor
  · intro both
    cases both.1
  · intro update
    cases update

theorem UpdateState.Agrees.withAssets {state : UpdateState}
    (agrees : state.Agrees table version) (assets : List Asset) :
    ({ state with assets } : UpdateState).Agrees table version :=
  ⟨agrees.notBoth, agrees.newer⟩

theorem tellCached_agrees (cache : UpdateCache) (state : UpdateState) :
    (tellCached table version cache state).Agrees table version := by
  simp only [tellCached]
  split
  · exact (applyReleaseTag_agrees _ _ _).withAssets _
  · exact withoutRelease_agrees _ _

/-- What is read agrees with the version, and the time of the attempt stays. -/
theorem readRelease_ok {data : JsonValue} {newEtag : Option PyStr}
    {cache written : UpdateCache} {state after : UpdateState}
    (read : readRelease table version data newEtag cache state =
      (.ok written, after)) :
    after.Agrees table version ∧
      written.lastAttemptAt = cache.lastAttemptAt := by
  cases data with
  | dict data =>
      simp only [readRelease] at read
      cases tagName : strippedText (fieldOf data "tag_name") with
      | error error =>
          simp only [tagName] at read
          cases read
      | ok tag =>
          cases htmlUrl : strippedText (fieldOf data "html_url") with
          | error error =>
              simp only [tagName, htmlUrl] at read
              cases read
          | ok url =>
              cases listed : releaseAssets (fieldOf data "assets") with
              | error error =>
                  simp only [tagName, htmlUrl, listed] at read
                  cases read
              | ok assets =>
                  simp only [tagName, htmlUrl, listed] at read
                  obtain ⟨isWritten, isAfter⟩ := Prod.mk.inj read
                  rw [← isAfter, ← Except.ok.inj isWritten]
                  refine ⟨UpdateState.Agrees.withAssets ?_ _, rfl⟩
                  split
                  · exact withoutRelease_agrees _ _
                  · exact applyReleaseTag_agrees _ _ _
  | none | bool value | int value | float value | str text | list items =>
      cases read

/-- The status is about the version of the call, however the call returns. -/
theorem runCheck_agrees {call : CheckCall} {state : UpdateState}
    {file : CacheFile}
    (returned : (runCheck table call state file).result = .ok ()) :
    (runCheck table call state file).state.Agrees table call.currentVersion := by
  simp only [runCheck] at returned ⊢
  split
  · exact tellCached_agrees _ _
  · rename_i due
    simp only [if_neg due] at returned
    split
    · rename_i data newEtag code fetched
      simp only [fetched] at returned
      split
      · exact (applyReleaseTag_agrees _ _ _).withAssets _
      · rename_i changed
        simp only [if_neg changed] at returned
        split
        · rename_i raised
          simp only [raised] at returned
          cases returned
        · rename_i read
          exact (readRelease_ok read).1
    · rename_i failed
      simp only [failed] at returned
      split
      · rename_i unlisted
        simp only [unlisted] at returned
        cases returned
      · exact withoutRelease_agrees _ _

/-- A call which asks and returns has recorded the attempt. -/
theorem runCheck_records {call : CheckCall} {state : UpdateState}
    {file : CacheFile} (works : call.access = .works)
    (returned : (runCheck table call state file).result = .ok ())
    (fetched : (runCheck table call state file).fetched = true) :
    ∃ cache, (runCheck table call state file).file = .stored cache ∧
      cache.lastAttemptAt = some call.now.val := by
  simp only [runCheck, works, saveCache] at returned fetched ⊢
  split
  · rename_i held
    simp only [if_pos held] at fetched
    cases fetched
  · rename_i due
    simp only [if_neg due] at returned
    split
    · rename_i data newEtag code answered
      simp only [answered] at returned
      split
      · exact ⟨_, rfl, rfl⟩
      · rename_i changed
        simp only [if_neg changed] at returned
        split
        · rename_i raised
          simp only [raised] at returned
          cases returned
        · rename_i read
          exact ⟨_, rfl, (readRelease_ok read).2⟩
    · rename_i failed
      simp only [failed] at returned
      split
      · rename_i unlisted
        simp only [unlisted] at returned
        cases returned
      · exact ⟨_, rfl, rfl⟩

/-- A call asks only when the recorded attempt is an hour old. -/
theorem runCheck_fetched {call : CheckCall} {state : UpdateState}
    {file : CacheFile}
    (fetched : (runCheck table call state file).fetched = true) :
    heldBack (loadCache call.access file) call.now = false := by
  simp only [runCheck] at fetched
  split at fetched
  · cases fetched
  · rename_i due
    exact Bool.not_eq_true _ ▸ due

theorem runCheck_held {call : CheckCall} {state : UpdateState}
    {file : CacheFile}
    (held : (runCheck table call state file).fetched = false) :
    (runCheck table call state file).file = file := by
  simp only [runCheck] at held ⊢
  split
  · rfl
  · rename_i due
    simp only [if_neg due] at held
    split at held
    · split at held
      · cases held
      · split at held
        · cases held
        · cases held
    · split at held
      · cases held
      · cases held

end Call

/-- The module between the calls, with the times at which it has asked and the
result of the last call. -/
structure UpdateChecks where
  state : UpdateState
  file : CacheFile
  fetches : List Rat
  result : Except CheckError Unit
  currentVersion : PyStr

namespace UpdateChecks

/-- The module has been imported, and an earlier process has left the file. -/
def initial (file : CacheFile) : UpdateChecks :=
  ⟨⟨false, false, false, none, none, none, []⟩, file, [], .ok (), []⟩

def step (table : DigitTable) (s : UpdateChecks) (call : CheckCall) :
    UpdateChecks :=
  let ran := runCheck table call s.state s.file
  { state := ran.state
    file := ran.file
    fetches :=
      if ran.fetched then s.fetches ++ [call.now.val] else s.fetches
    result := ran.result
    currentVersion := call.currentVersion }

/-- The last call has returned, and the status agrees with its version. -/
structure Proper (table : DigitTable) (s : UpdateChecks) : Prop where
  returned : s.result = .ok ()
  agrees : s.state.Agrees table s.currentVersion

/-- A call which asks understands the answer. -/
def Understands (s : UpdateChecks) (call : CheckCall) : Prop :=
  heldBack (loadCache call.access s.file) call.now = false →
    call.response.understood = true

variable {table : DigitTable} {s : UpdateChecks} {call : CheckCall}

theorem initial_proper (file : CacheFile) : (initial file).Proper table := by
  refine ⟨rfl, ?_, ?_⟩
  · intro both
    cases both.1
  · intro update
    cases update

theorem step_proper_iff :
    (s.step table call).Proper table ↔ s.Understands call := by
  have returned_iff : (runCheck table call s.state s.file).result = .ok () ↔
      s.Understands call := by
    rw [← isOk_iff, runCheck_isOk, Understands]
    cases heldBack (loadCache call.access s.file) call.now with
    | true => simp
    | false => simp
  constructor
  · intro proper
    exact returned_iff.mp proper.returned
  · intro understands
    have returned := returned_iff.mpr understands
    exact ⟨returned, runCheck_agrees returned⟩

/-- The attempts are an hour apart, and the last one is on record. -/
structure Spaced (s : UpdateChecks) : Prop where
  apart : s.fetches.Pairwise fun earlier later =>
    minFetchIntervalSec ≤ later - earlier
  recorded : ∀ last, s.fetches.getLast? = some last → 0 < last ∧
    ∃ cache, s.file = .stored cache ∧ cache.lastAttemptAt = some last

/-- An hour has passed since each of the attempts when the next one is due. -/
theorem Spaced.due (spaced : s.Spaced) (works : call.access = .works)
    (due : heldBack (loadCache call.access s.file) call.now = false) :
    ∀ earlier ∈ s.fetches, minFetchIntervalSec ≤ call.now.val - earlier := by
  intro earlier isEarlier
  have nonempty : s.fetches ≠ [] := List.ne_nil_of_mem isEarlier
  obtain ⟨front, last, split⟩ :=
    (List.eq_nil_or_concat' s.fetches).resolve_left nonempty
  have isLast : s.fetches.getLast? = some last := by
    rw [split, List.getLast?_concat]
  obtain ⟨positive, cache, stored, attempt⟩ := spaced.recorded last isLast
  have hour : minFetchIntervalSec ≤ call.now.val - last := by
    have nonzero : last ≠ 0 := ne_of_gt positive
    simpa [heldBack, works, stored, loadCache, attempt, nonzero] using due
  have ordered := spaced.apart
  rw [split] at ordered isEarlier
  rcases List.mem_append.mp isEarlier with before | same
  · have gap := (List.pairwise_append.mp ordered).2.2 earlier before last
      (List.mem_singleton_self last)
    have positiveGap : 0 ≤ minFetchIntervalSec := by decide
    linarith
  · rw [List.mem_singleton.mp same]
    exact hour

theorem Spaced.step (spaced : s.Spaced) (works : call.access = .works)
    (understands : s.Understands call) : (s.step table call).Spaced := by
  have returned : (runCheck table call s.state s.file).result = .ok () :=
    (step_proper_iff.mpr understands).returned
  cases fetched : (runCheck table call s.state s.file).fetched with
  | false =>
      have same := runCheck_held fetched
      constructor
      · simp only [UpdateChecks.step, fetched, Bool.false_eq_true, if_false]
        exact spaced.apart
      · simp only [UpdateChecks.step, fetched, Bool.false_eq_true, if_false,
          same]
        exact spaced.recorded
  | true =>
      have due := runCheck_fetched fetched
      obtain ⟨cache, stored, attempt⟩ := runCheck_records works returned fetched
      constructor
      · simp only [UpdateChecks.step, fetched, if_true]
        apply List.pairwise_append.mpr
        refine ⟨spaced.apart, List.pairwise_singleton _ _, ?_⟩
        intro earlier isEarlier later isLater
        rw [List.mem_singleton.mp isLater]
        exact spaced.due works due earlier isEarlier
      · simp only [UpdateChecks.step, fetched, if_true, List.getLast?_concat]
        intro last isLast
        cases isLast
        exact ⟨call.now.property, cache, stored, attempt⟩

theorem initial_spaced (file : CacheFile) : (initial file).Spaced := by
  constructor
  · exact List.Pairwise.nil
  · intro last isLast
    cases isLast

theorem spaced_run {calls : List CheckCall}
    (works : ∀ call ∈ calls, call.access = .works)
    (understood : AllSteps (UpdateChecks.step table) Understands s calls)
    (spaced : s.Spaced) : (run (UpdateChecks.step table) s calls).Spaced := by
  induction calls generalizing s with
  | nil => exact spaced
  | cons call calls induction =>
      have next : (s.step table call).Spaced :=
        spaced.step (works call List.mem_cons_self) understood.1
      exact induction
        (fun other member => works other (List.mem_cons_of_mem call member))
        understood.2 next

/-- The checks of a process all return, with a status that agrees with the
version, and ask at most once an hour while the file can be written, if and
only if no check asks and fails to understand the answer. -/
theorem checks_proper_iff (table : DigitTable) (file : CacheFile)
    (calls : List CheckCall) :
    ((∀ earlier, earlier <+: calls →
        (run (step table) (initial file) earlier).Proper table) ∧
      ((∀ call ∈ calls, call.access = .works) →
        (run (step table) (initial file) calls).fetches.Pairwise
          fun earlier later => minFetchIntervalSec ≤ later - earlier)) ↔
      AllSteps (step table) Understands (initial file) calls := by
  have exact (s : UpdateChecks) (call : CheckCall) (_ : s.Proper table) :
      (s.step table call).Proper table ↔ s.Understands call := step_proper_iff
  have throughout :=
    invariant_throughout_iff_allSteps exact (initial_proper file) calls
  constructor
  · intro ⟨proper, _⟩
    exact throughout.mp proper
  · intro understood
    refine ⟨throughout.mpr understood, ?_⟩
    intro works
    exact (spaced_run works understood (initial_spaced file)).apart

/-- The body `[]` is JSON and no object. -/
def bodyIsList (seconds : Clock) : CheckCall :=
  ⟨"1.0".toList, seconds, .works, .body (.list []) none 200⟩

/-- Nothing is recorded of such an answer, and the check a second later asks
again. -/
theorem list_body_raises :
    let checks := run (step DigitTable.ascii) (initial .missing)
      [bodyIsList ⟨1700000000, by decide⟩, bodyIsList ⟨1700000001, by decide⟩]
    checks.result = .error .attributeError ∧
      ¬ checks.fetches.Pairwise
        fun earlier later => minFetchIntervalSec ≤ later - earlier := by
  refine ⟨rfl, ?_⟩
  change ¬ [(1700000000 : Rat), 1700000001].Pairwise _
  rw [List.pairwise_pair, minFetchIntervalSec]
  intro hour
  linarith

end UpdateChecks

end TgWsProxy.Python
