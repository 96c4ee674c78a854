import Gatehouse.Proofs.Command.OfflineCheck
import Gatehouse.Proofs.Lists.Runs
import Mathlib.Data.List.TakeWhile
/-!
What a check from the command line shows.

A check can fail in four ways, and the first of them in this order is what is told:

    the rules are not loaded                       ROUTEGUARD_RULES_ERROR
    a query argument has no equals sign            ROUTEGUARD_INVALID_ARGUMENT
    the body is no JSON                            ROUTEGUARD_INVALID_ARGUMENT
    the request is rejected                        ROUTEGUARD_REJECTED

Else it prints that the request is accepted. The log agrees with that: it tells that the table was
loaded iff it was, the rejection iff there is one, and, if it is asked for more, that a request
was checked for which there are no rules (check_story).

What the arguments say is told here by the pairs they are made of, and not by how they are cut.
-/

namespace Gatehouse.Command

open Check (Descriptor Rejection)

/-! ## What is asked, and what goes wrong -/

/-- The table that is loaded from a path, or why there is none. -/
def tableOf (source : Files.Source Id) (rules : String) : Except Rules.Error Rules.Table :=
  Rules.Table.load source rules

/-- The value of the body. -/
inductive ReadsBody : Option String → Option Json → Prop
  | missing : ReadsBody none none
  | given {text : String} {value : Json} : Json.parse text = .ok value →
      ReadsBody (some text) (some value)

/-- The arguments describe a request: every query argument is a name, an equals sign and a value,
and the body is missing or JSON. -/
def Asks (method path : String) (query : List String) (body : Option String)
    (request : Descriptor) : Prop :=
  ∃ pairs value, (∀ pair ∈ pairs, '=' ∉ pair.1.toList) ∧ query = pairs.map queryArgument ∧
    ReadsBody body value ∧ request = ⟨method, "", path, Http.Query.ofPairs pairs, value⟩

/-- The arguments describe no request, and this is why: the first query argument without an equals
sign, or else the body. -/
inductive Misreads (query : List String) (body : Option String) : Error → Prop
  | query {before after : List String} {item : String} : query = before ++ item :: after →
      (∀ other ∈ before, '=' ∈ other.toList) → '=' ∉ item.toList →
      Misreads query body (.queryArgument item)
  | body {text : String} {e : Json.Error} : (∀ item ∈ query, '=' ∈ item.toList) →
      body = some text → Json.parse text = .error e → Misreads query body (.bodyArgument e)

/-- Why a check fails. -/
inductive Fails (source : Files.Source Id) (rules method path : String) (query : List String)
    (body : Option String) : Error → Prop
  | unloaded {e : Rules.Error} : tableOf source rules = .error e →
      Fails source rules method path query body (.rules e)
  | misread {table : Rules.Table} {e : Error} : tableOf source rules = .ok table →
      Misreads query body e → Fails source rules method path query body e
  | rejected {table : Rules.Table} {request : Descriptor} {rejection : Rejection} :
      tableOf source rules = .ok table → Asks method path query body request →
      table.check request = .rejected rejection →
      Fails source rules method path query body (.rejected rejection)

/-! ## Lemmas: the query -/

theorem pairOf_eq_ok_iff {text : String} {pair : String × String} :
    pairOf text = .ok pair ↔ '=' ∉ pair.1.toList ∧ queryArgument pair = text := by
  constructor
  · intro h
    unfold pairOf at h
    split at h
    · cases h
    · next c value hdrop =>
      obtain rfl := Except.ok.inj h
      have hc := List.head?_dropWhile_not (· != '=') text.toList
      rw [hdrop] at hc
      obtain rfl : c = '=' := by simpa using hc
      refine ⟨fun hmem => ?_, String.toList_inj.mp ?_⟩
      · rw [String.toList_ofList] at hmem
        have hne := List.mem_takeWhile_imp hmem
        simp at hne
      · rw [toList_queryArgument, String.toList_ofList, String.toList_ofList, ← hdrop,
          List.takeWhile_append_dropWhile]
  · rintro ⟨hname, rfl⟩
    exact pairOf_queryArgument hname

theorem pairOf_eq_error_iff {text : String} {e : Error} :
    pairOf text = .error e ↔ '=' ∉ text.toList ∧ e = .queryArgument text := by
  have hdrop : text.toList.dropWhile (· != '=') = [] ↔ '=' ∉ text.toList := by
    rw [List.dropWhile_eq_nil_iff]
    exact ⟨fun h hmem => bne_iff_ne.mp (h _ hmem) rfl,
      fun h c hc => bne_iff_ne.mpr fun heq => h (heq ▸ hc)⟩
  rw [← hdrop]
  unfold pairOf
  split
  · next hnil => simp [hnil, eq_comm]
  · next hcons => simp [hcons]

/-- A query argument is cut iff it has an equals sign. -/
theorem exists_pairOf_iff {text : String} :
    (∃ pair, pairOf text = .ok pair) ↔ '=' ∈ text.toList := by
  cases h : pairOf text with
  | ok pair =>
    obtain ⟨-, rfl⟩ := pairOf_eq_ok_iff.mp h
    rw [toList_queryArgument]
    simp
  | error e => simp [(pairOf_eq_error_iff.mp h).1]

/-- The query is cut into pairs iff it is made of them. -/
theorem mapM_pairOf_eq_ok_iff {query : List String} {pairs : List (String × String)} :
    query.mapM pairOf = .ok pairs ↔
      (∀ pair ∈ pairs, '=' ∉ pair.1.toList) ∧ query = pairs.map queryArgument := by
  constructor
  · intro h
    have hpairs := mapM_eq_ok_iff.mp h
    clear h
    induction hpairs with
    | nil => exact ⟨nofun, rfl⟩
    | cons hpair _ ih =>
      obtain ⟨hname, hitem⟩ := pairOf_eq_ok_iff.mp hpair
      exact ⟨List.forall_mem_cons.mpr ⟨hname, ih.1⟩, List.cons_eq_cons.mpr ⟨hitem.symm, ih.2⟩⟩
  · rintro ⟨hnames, rfl⟩
    exact mapM_pairOf hnames

theorem mapM_pairOf_eq_error_iff {query : List String} {e : Error} :
    query.mapM pairOf = .error e ↔ ∃ before item after, query = before ++ item :: after ∧
      (∀ other ∈ before, '=' ∈ other.toList) ∧ '=' ∉ item.toList ∧ e = .queryArgument item := by
  simp only [mapM_eq_error_iff, exists_pairOf_iff, pairOf_eq_error_iff]

/-- The query is cut iff each argument is. -/
theorem exists_mapM_pairOf_iff {query : List String} :
    (∃ pairs, query.mapM pairOf = .ok pairs) ↔ ∀ item ∈ query, '=' ∈ item.toList := by
  cases h : query.mapM pairOf with
  | ok pairs =>
    refine iff_of_true ⟨pairs, rfl⟩ fun item hitem => ?_
    rw [(mapM_pairOf_eq_ok_iff.mp h).2] at hitem
    obtain ⟨pair, -, rfl⟩ := List.mem_map.mp hitem
    rw [toList_queryArgument]
    exact List.mem_append_right _ List.mem_cons_self
  | error e =>
    obtain ⟨before, item, after, rfl, -, hitem, -⟩ := mapM_pairOf_eq_error_iff.mp h
    refine iff_of_false (fun ⟨_, h⟩ => nomatch h) fun hall => hitem (hall item ?_)
    exact List.mem_append_right _ List.mem_cons_self

/-! ## Lemmas: the request -/

theorem bodyOf_eq_ok_iff {body : Option String} {value : Option Json} :
    bodyOf body = .ok value ↔ ReadsBody body value := by
  constructor
  · intro h
    cases body with
    | none =>
      obtain rfl := Except.ok.inj h
      exact .missing
    | some text =>
      unfold bodyOf at h
      cases hparse : Json.parse text with
      | error e => simp [hparse] at h
      | ok found =>
        simp only [hparse] at h
        obtain rfl := Except.ok.inj h
        exact .given hparse
  · intro h
    cases h with
    | missing => rfl
    | given hparse => simp only [bodyOf, hparse]

theorem bodyOf_eq_error_iff {body : Option String} {e : Error} :
    bodyOf body = .error e ↔
      ∃ text fault, body = some text ∧ Json.parse text = .error fault ∧
        e = .bodyArgument fault := by
  cases body with
  | none => simp [bodyOf]
  | some text => cases hparse : Json.parse text <;> simp [bodyOf, hparse, eq_comm]

/-- The arguments describe a request iff one is made of them. -/
theorem descriptorOf_eq_ok_iff {method path : String} {query : List String}
    {body : Option String} {request : Descriptor} :
    descriptorOf method path query body = .ok request ↔ Asks method path query body request := by
  unfold descriptorOf Asks
  simp only [bind_eq_ok_iff, mapM_pairOf_eq_ok_iff, bodyOf_eq_ok_iff]
  constructor
  · rintro ⟨pairs, ⟨hnames, hquery⟩, value, hvalue, hrequest⟩
    exact ⟨pairs, value, hnames, hquery, hvalue, (Except.ok.inj hrequest).symm⟩
  · rintro ⟨pairs, value, hnames, hquery, hvalue, rfl⟩
    exact ⟨pairs, ⟨hnames, hquery⟩, value, hvalue, rfl⟩

/-- They describe one iff every query argument has an equals sign and the body, if there is one,
is JSON. -/
theorem exists_asks_iff {method path : String} {query : List String} {body : Option String} :
    (∃ request, Asks method path query body request) ↔
      (∀ item ∈ query, '=' ∈ item.toList) ∧
        ∀ text, body = some text → ∃ value, Json.parse text = .ok value := by
  have hquery : (∃ pairs, query.mapM pairOf = .ok pairs) ↔ _ := exists_mapM_pairOf_iff
  have hbody : (∃ value, ReadsBody body value) ↔
      ∀ text, body = some text → ∃ value, Json.parse text = .ok value := by
    constructor
    · rintro ⟨value, hvalue⟩ text rfl
      cases hvalue with
      | given hparse => exact ⟨_, hparse⟩
    · intro h
      cases body with
      | none => exact ⟨none, .missing⟩
      | some text =>
        obtain ⟨value, hparse⟩ := h text rfl
        exact ⟨some value, .given hparse⟩
  simp only [mapM_pairOf_eq_ok_iff] at hquery
  rw [← hquery, ← hbody]
  constructor
  · rintro ⟨request, pairs, value, hnames, hsplit, hvalue, -⟩
    exact ⟨⟨pairs, hnames, hsplit⟩, value, hvalue⟩
  · rintro ⟨⟨pairs, hnames, hsplit⟩, value, hvalue⟩
    exact ⟨_, pairs, value, hnames, hsplit, hvalue, rfl⟩

/-- They describe none iff something is wrong with them. -/
theorem descriptorOf_eq_error_iff {method path : String} {query : List String}
    {body : Option String} {e : Error} :
    descriptorOf method path query body = .error e ↔ Misreads query body e := by
  constructor
  · intro h
    cases hpairs : query.mapM pairOf with
    | error e' =>
      simp only [descriptorOf, hpairs] at h
      obtain rfl := Except.error.inj h
      obtain ⟨before, item, after, hsplit, hbefore, hitem, rfl⟩ :=
        mapM_pairOf_eq_error_iff.mp hpairs
      exact .query hsplit hbefore hitem
    | ok pairs =>
      have hall := exists_mapM_pairOf_iff.mp ⟨pairs, hpairs⟩
      cases hbody : bodyOf body with
      | error e' =>
        simp only [descriptorOf, hpairs, hbody] at h
        obtain rfl := Except.error.inj h
        obtain ⟨text, fault, htext, hfault, rfl⟩ := bodyOf_eq_error_iff.mp hbody
        exact .body hall htext hfault
      | ok value =>
        simp only [descriptorOf, hpairs, hbody] at h
        cases h
  · intro h
    cases h with
    | query hsplit hbefore hitem =>
      have hpairs := mapM_pairOf_eq_error_iff.mpr ⟨_, _, _, hsplit, hbefore, hitem, rfl⟩
      simp only [descriptorOf, hpairs]
      rfl
    | body hall htext hfault =>
      obtain ⟨pairs, hpairs⟩ := exists_mapM_pairOf_iff.mpr hall
      have hbody := bodyOf_eq_error_iff.mpr ⟨_, _, htext, hfault, rfl⟩
      simp only [descriptorOf, hpairs, hbody]
      rfl

/-! ## Lemmas: the run -/

section

variable {source : Files.Source Id} {rules method path : String} {query : List String}
  {body : Option String}

/-- All ways that a check can go, by what is loaded and what is asked, with the events of each. -/
inductive Course (source : Files.Source Id) (rules method path : String) (query : List String)
    (body : Option String) : Run → Prop
  | unloaded {e : Rules.Error} : tableOf source rules = .error e →
      Course source rules method path query body ⟨[], .failed (.rules e)⟩
  | misread {table : Rules.Table} {e : Error} : tableOf source rules = .ok table →
      descriptorOf method path query body = .error e →
      Course source rules method path query body ⟨[.tableLoaded rules table.size], .failed e⟩
  | passedThrough {table : Rules.Table} {request : Descriptor} :
      tableOf source rules = .ok table → descriptorOf method path query body = .ok request →
      table.get? path method = none → table.check request = .accepted →
      Course source rules method path query body
        ⟨[.tableLoaded rules table.size, .passedThrough (Ascii.lower method) path],
          .printed "accepted\n"⟩
  | accepted {table : Rules.Table} {request : Descriptor} {route : Rules.Route} :
      tableOf source rules = .ok table → descriptorOf method path query body = .ok request →
      table.get? path method = some route → table.check request = .accepted →
      Course source rules method path query body
        ⟨[.tableLoaded rules table.size], .printed "accepted\n"⟩
  | rejected {table : Rules.Table} {request : Descriptor} {route : Rules.Route}
      {rejection : Rejection} :
      tableOf source rules = .ok table → descriptorOf method path query body = .ok request →
      table.get? path method = some route → table.check request = .rejected rejection →
      Course source rules method path query body
        ⟨[.tableLoaded rules table.size,
            .requestRejected (Ascii.lower method) path rejection],
          .failed (.rejected rejection)⟩

theorem withTable_eq (source : Files.Source Id) (path : String) (next : Rules.Table → Run) :
    withTable source path next =
      (match tableOf source path with
      | .error e => Run.failed (.rules e)
      | .ok table => next table : Run) := by
  have htable : tableOf source path = Rules.Table.load source path := rfl
  rw [htable]
  unfold withTable
  cases Rules.Table.load source path <;> rfl

theorem run_check (source : Files.Source Id) (port : Option String) (rules method path : String)
    (query : List String) (body : Option String) :
    Task.run source port (.check rules method path query body) =
      (match tableOf source rules with
      | .error e => Run.failed (.rules e)
      | .ok table => runCheck rules table (descriptorOf method path query body) : Run) :=
  withTable_eq source rules fun table => runCheck rules table (descriptorOf method path query body)

theorem Asks.path_and_method {request : Descriptor} (h : Asks method path query body request) :
    request.path = path ∧ request.method = method := by
  obtain ⟨pairs, value, -, -, -, rfl⟩ := h
  exact ⟨String.empty_append, rfl⟩

/-- The request is logged for the path of the arguments, with their method in lower case. -/
theorem Asks.ofCheck {request : Descriptor} (h : Asks method path query body request)
    (table : Rules.Table) :
    Log.Event.ofCheck table request =
      match table.get? path method with
      | none => [.passedThrough (Ascii.lower method) path]
      | some _ =>
        match table.check request with
        | .accepted => []
        | .rejected rejection => [.requestRejected (Ascii.lower method) path rejection] := by
  obtain ⟨hpath, hmethod⟩ := h.path_and_method
  unfold Log.Event.ofCheck
  cases hroute : table.get? path method with
  | none => simp only [hpath, hmethod, hroute]
  | some route =>
    cases hcheck : table.check request with
    | accepted => simp only [hpath, hmethod, hroute]
    | rejected rejection => simp only [hpath, hmethod, hroute]

theorem course_check (source : Files.Source Id) (port : Option String)
    (rules method path : String) (query : List String) (body : Option String) :
    Course source rules method path query body
      (Task.run source port (.check rules method path query body)) := by
  rw [run_check]
  cases htable : tableOf source rules with
  | error e => exact .unloaded htable
  | ok table =>
    cases hrequest : descriptorOf method path query body with
    | error e => exact .misread htable hrequest
    | ok request =>
      have hasks := descriptorOf_eq_ok_iff.mp hrequest
      simp only [runCheck, hasks.ofCheck]
      cases hroute : table.get? path method with
      | none =>
        have hcheck : table.check request = .accepted := by
          unfold Rules.Table.check
          rw [hasks.path_and_method.1, hasks.path_and_method.2, hroute]
        simp only [hcheck]
        exact .passedThrough htable hrequest hroute hcheck
      | some route =>
        cases hcheck : table.check request with
        | accepted => exact .accepted htable hrequest hroute hcheck
        | rejected rejection => exact .rejected htable hrequest hroute hcheck

/-- A failure by what is computed. -/
theorem fails_iff_descriptorOf {e : Error} :
    Fails source rules method path query body e ↔
      (∃ fault, tableOf source rules = .error fault ∧ .rules fault = e) ∨
      ∃ table, tableOf source rules = .ok table ∧
        (descriptorOf method path query body = .error e ∨
          ∃ request rejection, descriptorOf method path query body = .ok request ∧
            table.check request = .rejected rejection ∧ .rejected rejection = e) := by
  simp only [descriptorOf_eq_error_iff, descriptorOf_eq_ok_iff]
  constructor
  · intro h
    cases h with
    | unloaded h => exact .inl ⟨_, h, rfl⟩
    | misread h hmis => exact .inr ⟨_, h, .inl hmis⟩
    | rejected h hasks hcheck => exact .inr ⟨_, h, .inr ⟨_, _, hasks, hcheck, rfl⟩⟩
  · rintro (⟨fault, h, rfl⟩ | ⟨table, h, hmis | ⟨request, rejection, hasks, hcheck, rfl⟩⟩)
    · exact .unloaded h
    · exact .misread h hmis
    · exact .rejected h hasks hcheck

namespace Course

variable {run : Run} (h : Course source rules method path query body run)
include h

/-- A check prints one text and fails else. -/
theorem ending_cases : run.ending = .printed "accepted\n" ∨ ∃ e, run.ending = .failed e := by
  cases h with
  | unloaded | misread | rejected => exact .inr ⟨_, rfl⟩
  | passedThrough | accepted => exact .inl rfl

/-- What is shown at the end: that the request is accepted, or the line of an error. -/
theorem exists_report :
    ∃ report, run.ending.report? = some report ∧
      (report = ⟨0, "accepted\n", []⟩ ↔ run.ending = .printed "accepted\n") ∧
      (report ≠ ⟨0, "accepted\n", []⟩ → ∃ e, report = ⟨1, "", [e.line]⟩ ∧
        ∀ other, run.ending = .failed other ↔ other = e) := by
  rcases h.ending_cases with hending | ⟨e, hending⟩
  · rw [hending]
    exact ⟨_, rfl, by simp, fun hne => absurd rfl hne⟩
  · rw [hending]
    exact ⟨_, rfl, by simp [Error.report], fun _ => ⟨e, rfl, by simp [eq_comm]⟩⟩

theorem accepts_iff :
    (∃ table request, tableOf source rules = .ok table ∧
      Asks method path query body request ∧ table.check request = .accepted) ↔
      run.ending = .printed "accepted\n" := by
  simp only [← descriptorOf_eq_ok_iff]
  cases h with
  | unloaded htable => simp [htable]
  | misread htable hrequest => simp [htable, hrequest]
  | passedThrough htable hrequest hroute hcheck => simp [htable, hrequest, hcheck]
  | accepted htable hrequest hroute hcheck => simp [htable, hrequest, hcheck]
  | rejected htable hrequest hroute hcheck => simp [htable, hrequest, hcheck]

/-- A check fails iff it ends so, and with the same error. -/
theorem fails_iff {e : Error} :
    Fails source rules method path query body e ↔ run.ending = .failed e := by
  rw [fails_iff_descriptorOf]
  cases h with
  | unloaded htable => simp [htable]
  | misread htable hrequest => simp [htable, hrequest]
  | passedThrough htable hrequest hroute hcheck => simp [htable, hrequest, hcheck]
  | accepted htable hrequest hroute hcheck => simp [htable, hrequest, hcheck]
  | rejected htable hrequest hroute hcheck => simp [htable, hrequest, hcheck]

theorem nodup_events : run.events.Nodup := by
  cases h with
  | unloaded | misread | passedThrough | accepted | rejected => simp

theorem mem_tableLoaded_iff {place : String} {routes : Nat} :
    .tableLoaded place routes ∈ run.events ↔
      place = rules ∧ ∃ table, tableOf source rules = .ok table ∧ routes = table.size := by
  cases h with
  | unloaded htable => simp [htable]
  | misread htable | passedThrough htable | accepted htable | rejected htable => simp [htable]

theorem mem_requestRejected_iff {asked place : String} {rejection : Rejection} :
    .requestRejected asked place rejection ∈ run.events ↔
      asked = Ascii.lower method ∧ place = path ∧ run.ending = .failed (.rejected rejection) := by
  cases h with
  | unloaded | passedThrough | accepted => simp
  | misread htable hrequest =>
    have hmis := descriptorOf_eq_error_iff.mp hrequest
    cases hmis with
    | query | body => simp
  | rejected => simp [eq_comm]

theorem mem_passedThrough_iff {asked place : String} :
    .passedThrough asked place ∈ run.events ↔
      asked = Ascii.lower method ∧ place = path ∧
        ∃ table request, tableOf source rules = .ok table ∧
          Asks method path query body request ∧ table.get? path method = none := by
  simp only [← descriptorOf_eq_ok_iff]
  cases h with
  | unloaded htable => simp [htable]
  | misread htable hrequest => simp [htable, hrequest]
  | passedThrough htable hrequest hroute => simp [htable, hrequest, hroute]
  | accepted htable hrequest hroute => simp [htable, hrequest, hroute]
  | rejected htable hrequest hroute => simp [htable, hrequest, hroute]

end Course

end

/-! ## Lemmas: the log -/

/-- A single level is the limit for all events. -/
theorem admits_general (threshold : Log.Threshold) (event : Log.Event) :
    Log.Filter.admits [.general threshold] event = threshold.admits event.level := by
  have hcovers : (Log.Directive.general threshold).covers event = true := by
    unfold Log.Directive.covers Log.Directive.general
    simp
  unfold Log.Filter.admits Log.Filter.decisive?
  simp only [List.filter_cons, hcovers, if_true]
  rfl

/-- What is logged for a verbosity: rejections and loaded tables in any case, and what passes
through if the log is to be more verbose. -/
theorem admits_levelFor (verbosity : Nat) (event : Log.Event) :
    Log.Filter.admits [.general (some (Log.levelFor verbosity))] event =
      match event with
      | .passedThrough _ _ => decide (1 ≤ verbosity)
      | _ => true := by
  rw [admits_general]
  rcases verbosity with _ | _ | verbosity <;> cases event <;> simp <;> rfl

/-! ## The theorem -/

/-- **A check tells one story.** The arguments describe a request iff each of the query has an
equals sign and the body, if there is one, is JSON. A check exits with 0 and prints that the request
is accepted iff the rules are loaded, there is a request and it is accepted. Else it exits with 1,
prints nothing, and tells the one error that there is. The log, where no variable sets it, holds no
event twice. It tells that the table was loaded, and with how many routes, iff it was; that the
request was rejected, and why, iff that is the error; and that a request passed through iff it was
checked, there are no rules for it and the log is to be more verbose. -/
theorem check_story (source : Files.Source Id) (port : Option String) (verbosity : Nat)
    (rules method path : String) (query : List String) (body : Option String) :
    let run : Run := Task.run source port (.check rules method path query body)
    ∃ filter report, Log.Filter.resolve? none verbosity = some filter ∧
      run.ending.report? = some report ∧
      ((∃ request, Asks method path query body request) ↔
        (∀ item ∈ query, '=' ∈ item.toList) ∧
          ∀ text, body = some text → ∃ value, Json.parse text = .ok value) ∧
      (report = ⟨0, "accepted\n", []⟩ ↔ ∃ table request, tableOf source rules = .ok table ∧
        Asks method path query body request ∧ table.check request = .accepted) ∧
      (report ≠ ⟨0, "accepted\n", []⟩ → ∃ e, report = ⟨1, "", [e.line]⟩ ∧
        ∀ other, Fails source rules method path query body other ↔ other = e) ∧
      (run.logged filter).Nodup ∧
      (∀ place routes, .tableLoaded place routes ∈ run.logged filter ↔ place = rules ∧
        ∃ table, tableOf source rules = .ok table ∧ routes = table.size) ∧
      (∀ asked place rejection, .requestRejected asked place rejection ∈ run.logged filter ↔
        asked = Ascii.lower method ∧ place = path ∧
          Fails source rules method path query body (.rejected rejection)) ∧
      (∀ asked place, .passedThrough asked place ∈ run.logged filter ↔
        asked = Ascii.lower method ∧ place = path ∧ 1 ≤ verbosity ∧
          ∃ table request, tableOf source rules = .ok table ∧
            Asks method path query body request ∧ table.get? path method = none) := by
  intro run
  have hcourse : Course source rules method path query body run :=
    course_check source port rules method path query body
  have hlogged : ∀ event, event ∈ run.logged [.general (some (Log.levelFor verbosity))] ↔
      event ∈ run.events ∧
        (match event with
        | .passedThrough _ _ => decide (1 ≤ verbosity)
        | _ => true) = true := by
    intro event
    rw [Run.logged, List.mem_filter, admits_levelFor]
  obtain ⟨report, hreport, haccepted, hfailed⟩ := hcourse.exists_report
  simp only [hcourse.accepts_iff, hcourse.fails_iff]
  refine ⟨_, report, rfl, hreport, exists_asks_iff, haccepted, hfailed,
    hcourse.nodup_events.filter _, ?_, ?_, ?_⟩
  · intro place routes
    rw [hlogged, hcourse.mem_tableLoaded_iff]
    exact and_iff_left rfl
  · intro asked place rejection
    rw [hlogged, hcourse.mem_requestRejected_iff]
    exact and_iff_left rfl
  · intro asked place
    rw [hlogged, hcourse.mem_passedThrough_iff, decide_eq_true_iff, and_assoc, and_assoc]
    exact and_congr_right fun _ => and_congr_right fun _ => and_comm

/-- The arguments of a check that has a query argument without an equals sign. -/
def pageArguments : List String :=
  ["-v", "check", "--path", "/x", "--query", "page"]

/-- Files that are all empty rules. -/
def emptyRules : Files.Source Id :=
  fun _ => .ok (Utf8.encode "\x7b\x7d")

/-- There are no rules for a request and the log is more verbose, and yet it does not tell that
the request passed through: the arguments describe none, so nothing was checked. -/
theorem not_passedThrough_pageArguments :
    Invocation.parse pageArguments =
        .ok ⟨1, false, .check "./rules.json" "GET" "/x" ["page"] none⟩ ∧
      ¬∀ filter, Log.Filter.resolve? none 1 = some filter →
        ((∃ asked place, .passedThrough asked place ∈
            Run.logged (Task.run emptyRules none
              (.check "./rules.json" "GET" "/x" ["page"] none)) filter) ↔
          (∃ table, tableOf emptyRules "./rules.json" = .ok table ∧
            table.get? "/x" "GET" = none) ∧ 1 ≤ 1) := by
  refine ⟨rfl, fun h => ?_⟩
  have hcourse := course_check emptyRules none "./rules.json" "GET" "/x" ["page"] none
  have htable : tableOf emptyRules "./rules.json" = .ok Rules.Table.empty := rfl
  obtain ⟨asked, place, hmem⟩ := (h _ rfl).mpr ⟨⟨_, htable, rfl⟩, Nat.le_refl 1⟩
  obtain ⟨-, -, table, request, -, hasks, -⟩ :=
    hcourse.mem_passedThrough_iff.mp (List.mem_filter.mp hmem).1
  have hrequest := descriptorOf_eq_ok_iff.mpr hasks
  cases hrequest

end Gatehouse.Command
