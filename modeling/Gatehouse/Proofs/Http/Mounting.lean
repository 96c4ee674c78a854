import Gatehouse.Http.Mount
import Gatehouse.Proofs.Http.GuardSafety
import Gatehouse.Proofs.Lists.Cutting
/-!
A guard under a mount.

A mount without captures takes its own path and the paths that have a slash and something behind
it, and shows the handler what is left of them:

    mount           is seen as  /
    mount/rest      is seen as  /rest        (rest does not start with a slash)
    mount//rest     is seen as  /rest
    any other path  is not found

A path is cut into segments to tell, and put together again (`strip?_eq_some_iff`).

A guard looks rules up by the path that came in, and reads the query, the headers and the body,
none of which a mount touches. So it does under a mount what it does without one, and only what
is handed on is seen with the shorter path (`mounted_transparent`).
-/

namespace Gatehouse.Http

/-- The request with another path. What came in stays what it was. -/
def Request.withPath (request : Request) (path : List Char) : Request :=
  { request with uri := { request.uri with path := String.ofList path } }

namespace Mount

/-- The text of a mount without captures: it starts with a slash, ends in something else, and has
neither colons nor stars. -/
structure IsLiteral (text : List Char) : Prop where
  starts : text.head? = some '/'
  ends : text.getLast? ≠ some '/'
  noColon : ':' ∉ text
  noStar : '*' ∉ text

/-- A path is the one of a mount or below it, and this is what is seen of it. -/
inductive Below (text : List Char) : List Char → List Char → Prop
  | itself : Below text text ['/']
  | slash {rest : List Char} : rest ≠ [] → rest.head? ≠ some '/' →
      Below text (text ++ '/' :: rest) ('/' :: rest)
  | slashes {rest : List Char} : Below text (text ++ '/' :: '/' :: rest) ('/' :: rest)

/-! ## Lemmas: a mount without captures -/

/-- The mount that a text without captures names. -/
def literal (text : List Char) : Mount :=
  ⟨text.tail.splitOn '/', false⟩

namespace IsLiteral

variable {text : List Char}

/-- There is something behind the first slash, and its last character is no slash. -/
theorem eq_cons (h : IsLiteral text) :
    text = '/' :: text.tail ∧ text.tail ≠ [] ∧ text.tail.getLast? ≠ some '/' := by
  obtain ⟨starts, ends, -, -⟩ := h
  cases text with
  | nil => cases starts
  | cons c rest =>
    obtain rfl : c = '/' := Option.some.inj starts
    cases rest with
    | nil => exact absurd rfl ends
    | cons d rest => exact ⟨rfl, List.cons_ne_nil d rest, ends⟩

theorem of_mem_segments (h : IsLiteral text) {segment : Segment}
    (hsegment : segment ∈ (literal text).segments) : ':' ∉ segment ∧ '*' ∉ segment := by
  have hmem : ∀ c ∈ segment, c ∈ text := fun c hc =>
    List.mem_of_mem_tail (mem_of_mem_splitOn hsegment hc).1
  exact ⟨fun hc => h.noColon (hmem _ hc), fun hc => h.noStar (hmem _ hc)⟩

theorem hasCapture_eq_false (h : IsLiteral text) {segment : Segment}
    (hsegment : segment ∈ (literal text).segments) : segment.hasCapture = false :=
  Bool.eq_false_iff.mpr fun hcapture =>
    (h.of_mem_segments hsegment).1 (List.contains_iff_mem.mp hcapture)

theorem isMountable (h : IsLiteral text) {segment : Segment}
    (hsegment : segment ∈ (literal text).segments) : segment.isMountable = true := by
  obtain ⟨hcolon, hstar⟩ := h.of_mem_segments hsegment
  have hdrop : segment.dropWhile (· != ':') = [] := by
    rw [List.dropWhile_eq_nil_iff]
    intro c hc
    exact bne_iff_ne.mpr fun heq => hcolon (heq ▸ hc)
  unfold Segment.isMountable
  rw [hdrop, Bool.and_true, Bool.not_eq_true']
  exact Bool.eq_false_iff.mpr fun hcontains => hstar (List.contains_iff_mem.mp hcontains)

theorem areMountable (h : IsLiteral text) : areMountable (literal text).segments = true := by
  obtain ⟨first, others, hsplit⟩ :=
    List.exists_cons_of_ne_nil (List.splitOn_ne_nil '/' text.tail)
  have hfirst : first ∈ (literal text).segments := by
    rw [literal, hsplit]
    exact List.mem_cons_self
  have hne : (literal text).segments ≠ [[]] := fun heq => h.eq_cons.2.1 (eq_nil_of_splitOn heq)
  have hall : (literal text).segments.all Segment.isMountable = true :=
    List.all_eq_true.mpr fun _ => h.isMountable
  have hcapture : ((literal text).segments.headD []).isCapture = false := by
    rw [literal, hsplit, List.headD_cons]
    refine Bool.eq_false_iff.mpr fun hstart => (h.of_mem_segments hfirst).1 ?_
    exact List.mem_of_head? (beq_iff_eq.mp hstart)
  have hcount : (literal text).segments.countP Segment.hasCapture = 0 :=
    List.countP_eq_zero.mpr fun _ hsegment =>
      Bool.eq_false_iff.mp (h.hasCapture_eq_false hsegment)
  unfold Mount.areMountable
  rw [hall, hcapture, hcount]
  simp [hne]

/-- No slash is at the end, so the last segment is not empty. -/
theorem ofSegments (h : IsLiteral text) : ofSegments (literal text).segments = literal text := by
  unfold Mount.ofSegments
  refine if_neg fun hlast => ?_
  obtain ⟨front, hfront⟩ := List.getLast?_eq_some_iff.mp hlast
  by_cases hnil : front = []
  · rw [hnil] at hfront
    exact h.eq_cons.2.1 (eq_nil_of_splitOn hfront)
  · obtain ⟨f, b, htext, -, hb⟩ :=
      exists_of_splitOn_eq_append hfront hnil (List.cons_ne_nil [] [])
    apply h.eq_cons.2.2
    rw [htext, eq_nil_of_splitOn hb, List.getLast?_append, List.getLast?_singleton, Option.some_or]

end IsLiteral

/-- Every text of that form names a mount. -/
theorem ofText?_of_isLiteral {text : String} (h : IsLiteral text.toList) :
    ofText? text = some (literal text.toList) := by
  have hmountable := h.areMountable
  have hsegments := h.ofSegments
  obtain ⟨rest, hrest⟩ : ∃ rest, text.toList = '/' :: rest := ⟨_, h.eq_cons.1⟩
  rw [hrest] at hmountable hsegments ⊢
  unfold ofText?
  rw [hrest]
  exact (if_pos hmountable).trans (congrArg some hsegments)

/-! ## Lemmas: what is seen of a path -/

/-- Segments without captures fit themselves alone. -/
theorem behind?_eq_some_iff {mounted path rest : List Segment}
    (h : ∀ segment ∈ mounted, segment.hasCapture = false) :
    behind? mounted path = some rest ↔ path = mounted ++ rest := by
  induction mounted generalizing path with
  | nil =>
    rw [behind?, List.nil_append]
    exact ⟨Option.some.inj, congrArg some⟩
  | cons m mounted ih =>
    cases path with
    | nil =>
      rw [behind?]
      exact iff_of_false (fun h => nomatch h) (fun h => nomatch h)
    | cons s path =>
      have hm : m.hasCapture = false := h m List.mem_cons_self
      have hfits : m.fits s path.isEmpty = (m == s) := by
        unfold Segment.fits
        rw [hm]
        rfl
      rw [behind?, hfits, List.cons_append, List.cons.injEq]
      by_cases heq : m = s
      · rw [if_pos (beq_iff_eq.mpr heq),
          ih fun segment hsegment => h segment (List.mem_cons_of_mem m hsegment)]
        exact ⟨fun hpath => ⟨heq.symm, hpath⟩, fun hpath => hpath.2⟩
      · rw [if_neg fun hb => heq (beq_iff_eq.mp hb)]
        exact iff_of_false (fun h => nomatch h) (fun hpath => heq hpath.1.symm)

theorem isWhole_append (mount : Mount) (rest : List Segment) :
    mount.isWhole (mount.segments ++ rest) = true := by
  unfold isWhole
  induction mount.segments with
  | nil => rfl
  | cons m mounted ih =>
    rw [List.cons_append, List.zip_cons_cons, List.all_cons, ih, Bool.and_true]
    simp only [beq_self_eq_true, Bool.or_true]

/-- What is left is put together behind one slash. -/
theorem pathText_skipEmpty {rest : List Char} (hne : rest ≠ []) (hhead : rest.head? ≠ some '/') :
    pathText (skipEmpty (rest.splitOn '/')) = '/' :: rest := by
  cases rest with
  | nil => exact absurd rfl hne
  | cons c rest =>
    have hc : ¬(c == '/') = true := fun h => hhead (congrArg some (beq_iff_eq.mp h))
    obtain ⟨first, others, hsplit⟩ :=
      List.exists_cons_of_ne_nil (List.splitOn_ne_nil '/' rest)
    have hskip : skipEmpty ((c :: rest).splitOn '/') = (c :: rest).splitOn '/' := by
      rw [List.splitOn_cons_eq_if_modifyHead, if_neg hc, hsplit]
      rfl
    rw [hskip, pathText, List.intercalate_splitOn]

/-- An empty segment in front is lost. -/
theorem pathText_skipEmpty_slash (rest : List Char) :
    pathText (skipEmpty (('/' :: rest).splitOn '/')) = '/' :: rest := by
  rw [List.splitOn_cons_eq_if_modifyHead, if_pos (beq_self_eq_true '/'), skipEmpty, pathText,
    List.intercalate_splitOn]

/-- The segments of a path that are behind those of a mount are none, or those of what is behind
the mount and a slash. -/
theorem splitOn_eq_append_iff {front path : List Char} {rest : List Segment} :
    path.splitOn '/' = front.splitOn '/' ++ rest ↔
      (rest = [] ∧ path = front) ∨
        ∃ back, rest = back.splitOn '/' ∧ path = front ++ '/' :: back := by
  constructor
  · intro h
    by_cases hrest : rest = []
    · rw [hrest, List.append_nil] at h
      exact .inl ⟨hrest, splitOn_inj h⟩
    · obtain ⟨f, b, hpath, hf, hb⟩ :=
        exists_of_splitOn_eq_append h (List.splitOn_ne_nil '/' front) hrest
      exact .inr ⟨b, hb.symm, splitOn_inj hf ▸ hpath⟩
  · rintro (⟨rfl, rfl⟩ | ⟨back, rfl, rfl⟩)
    · exact (List.append_nil _).symm
    · exact splitOn_append_separator '/' front back

/-- The handler sees the segments behind those of the mount. There are none, or more than an
empty one. -/
theorem strip?_cons_eq_some_iff {text path seen : List Char} (h : IsLiteral text) :
    (literal text).strip? ('/' :: path) = some seen ↔
      ∃ rest, path.splitOn '/' = (literal text).segments ++ rest ∧ rest ≠ [[]] ∧
        pathText (skipEmpty rest) = seen := by
  have hbehind : ∀ {segments rest : List Segment},
      behind? (literal text).segments segments = some rest ↔
        segments = (literal text).segments ++ rest :=
    behind?_eq_some_iff fun _ => h.hasCapture_eq_false
  have hslash : (literal text).endsInSlash = false := rfl
  have hbelow : ∀ {rest : List Segment}, (literal text).below? (path.splitOn '/') = some rest ↔
      path.splitOn '/' = (literal text).segments ++ rest ∧ rest ≠ [[]] := by
    intro rest
    unfold below?
    rw [← hbehind, hslash]
    cases behind? (literal text).segments (path.splitOn '/') with
    | none => simp
    | some other =>
      simp only [Bool.false_eq_true, if_false, Option.some.injEq]
      by_cases hempty : other = [[]]
      · rw [if_pos hempty]
        exact iff_of_false (fun h => nomatch h) (fun h => h.2 (h.1 ▸ hempty))
      · rw [if_neg hempty, Option.some.injEq]
        exact ⟨fun heq => ⟨heq, heq ▸ hempty⟩, fun h => h.1⟩
  rw [strip?, Option.map_eq_some_iff, hslash]
  constructor
  · rintro ⟨rest, hrest, hseen⟩
    obtain ⟨hsplit, hne⟩ := hbelow.mp hrest
    rw [hsplit, isWhole_append] at hseen
    exact ⟨rest, hsplit, hne, hseen⟩
  · rintro ⟨rest, hsplit, hne, hseen⟩
    refine ⟨rest, hbelow.mpr ⟨hsplit, hne⟩, ?_⟩
    rw [hsplit, isWhole_append]
    exact hseen

/-- A mount without captures strips its paths to what is seen of them, and takes no others. -/
theorem strip?_eq_some_iff {text path seen : List Char} (h : IsLiteral text) :
    (literal text).strip? path = some seen ↔ Below text path seen := by
  obtain ⟨front, rfl⟩ : ∃ front, text = '/' :: front := ⟨_, h.eq_cons.1⟩
  have hsegments : (literal ('/' :: front)).segments = front.splitOn '/' := rfl
  constructor
  · intro hstrip
    cases path with
    | nil => cases hstrip
    | cons c path =>
      by_cases hc : c = '/'
      · rw [hc] at hstrip ⊢
        obtain ⟨rest, hsplit, hne, hseen⟩ := (strip?_cons_eq_some_iff h).mp hstrip
        rw [hsegments] at hsplit
        rcases splitOn_eq_append_iff.mp hsplit with ⟨rfl, rfl⟩ | ⟨back, rfl, rfl⟩
        · rw [← hseen]
          exact .itself
        · have hback : back ≠ [] := fun heq => hne (heq ▸ List.splitOn_nil '/')
          by_cases hhead : back.head? = some '/'
          · obtain ⟨rest, rfl⟩ := List.head?_eq_some_iff.mp hhead
            rw [← hseen, pathText_skipEmpty_slash]
            exact .slashes
          · rw [← hseen, pathText_skipEmpty hback hhead]
            exact .slash hback hhead
      · unfold strip? at hstrip
        split at hstrip
        · rename_i heq
          exact absurd (List.cons.inj heq).1 hc
        · cases hstrip
  · intro hbelow
    have hmore : ∀ {back : List Char}, back ≠ [] →
        (literal ('/' :: front)).strip? ('/' :: (front ++ '/' :: back)) =
          some (pathText (skipEmpty (back.splitOn '/'))) := fun {back} hback =>
      (strip?_cons_eq_some_iff h).mpr
        ⟨_, splitOn_append_separator '/' front back, fun heq => hback (eq_nil_of_splitOn heq), rfl⟩
    cases hbelow with
    | itself =>
      exact (strip?_cons_eq_some_iff h).mpr ⟨[], (List.append_nil _).symm, nofun, rfl⟩
    | slash hne hhead => exact (hmore hne).trans (congrArg some (pathText_skipEmpty hne hhead))
    | slashes =>
      exact (hmore (List.cons_ne_nil _ _)).trans (congrArg some (pathText_skipEmpty_slash _))

/-- What follows the path of a mount is a slash. -/
theorem Below.eq_slash {text seen rest : List Char} {c : Char}
    (h : Below text (text ++ c :: rest) seen) : c = '/' := by
  generalize hpath : text ++ c :: rest = path at h
  cases h with
  | itself => exact absurd (List.append_right_eq_self.mp hpath) (List.cons_ne_nil c rest)
  | slash | slashes => exact (List.cons.inj (List.append_cancel_left hpath)).1

end Mount

/-! ## Lemmas: the guard -/

namespace Guard

variable {guard : Guard} {request : Request}

/-- What is checked is the path that came in. -/
theorem descriptor_withPath (request : Request) (path : List Char) (body : Option Json) :
    descriptor (request.withPath path) body = descriptor request body := rfl

/-- A request is handed on or refused whatever its path is now. -/
theorem handOn_withPath (guard : Guard) (request : Request) (path : List Char) :
    guard.handOn (request.withPath path) =
      (guard.handOn request).map fun request => request.withPath path := by
  have hheaders : (request.withPath path).headers = request.headers := rfl
  have hbody : (request.withPath path).body = request.body := rfl
  unfold handOn
  rw [hheaders, hbody]
  by_cases hdeclared : guard.declaresTooMuch request.headers = true
  · rw [if_pos hdeclared, if_pos hdeclared]
    rfl
  · rw [if_neg hdeclared, if_neg hdeclared]
    cases guard.collect? request.body with
    | none => rfl
    | some bytes =>
      simp only
      cases Body.parse request.headers bytes with
      | error problem => rfl
      | ok body =>
        simp only [descriptor_withPath]
        cases guard.table.check (descriptor request body) with
        | accepted => rfl
        | rejected rejection => rfl

/-- A path may as well be changed behind the guard. -/
theorem wrap_withPath (guard : Guard) (inner : Handler) (request : Request) (path : List Char) :
    guard.wrap inner (request.withPath path) =
      guard.wrap (fun request => inner (request.withPath path)) request := by
  unfold wrap
  rw [handOn_withPath]
  cases guard.handOn request with
  | error problem => rfl
  | ok request => rfl

/-- There is always another answer. -/
theorem exists_response_ne (response : Response) : ∃ other : Response, other ≠ response :=
  ⟨⟨response.status + 1, [], []⟩, fun h => Nat.succ_ne_self _ (congrArg Response.status h)⟩

theorem handsOn_or_refuses (guard : Guard) (request : Request) :
    guard.HandsOn request ∨ ∃ response, guard.Refuses request response := by
  rcases handOn_cases guard request with ⟨-, -, hok⟩ | ⟨-, herror⟩ | ⟨-, problem, -, herror⟩
  · exact .inl (handsOn_of_ok hok)
  · exact .inr ⟨_, refuses_of_error herror⟩
  · exact .inr ⟨_, refuses_of_error herror⟩

/-- What is refused is not changed by what is done behind the guard. -/
theorem refuses_behind_iff {response : Response} (change : Request → Request) :
    (∀ inner : Handler, guard.wrap (fun request => inner (change request)) request = response) ↔
      guard.Refuses request response := by
  rcases handsOn_or_refuses guard request with hhands | ⟨alone, halone⟩
  · obtain ⟨other, hother⟩ := exists_response_ne response
    refine iff_of_false (fun h => hother ?_) fun hrefuses => hrefuses.not_handsOn hhands
    exact (hhands _).symm.trans (h fun _ => other)
  · have hunique : ∀ inner, guard.wrap inner request = alone := halone
    simp only [Refuses, hunique]

/-- Nor is what is handed on. -/
theorem handsOn_behind_iff (change : Request → Request) :
    (∀ inner : Handler,
      guard.wrap (fun request => inner (change request)) request = inner (change request)) ↔
      guard.HandsOn request := by
  rcases handsOn_or_refuses guard request with hhands | ⟨alone, halone⟩
  · exact iff_of_true (fun _ => hhands _) hhands
  · obtain ⟨other, hother⟩ := exists_response_ne alone
    refine iff_of_false (fun h => hother ?_) halone.not_handsOn
    exact (h fun _ => other).symm.trans (halone _)

end Guard

namespace Mount

variable {text : List Char} {request : Request}

/-- Below a mount, the guard comes first. -/
theorem wrap_wrap_of_below (h : IsLiteral text) {seen : List Char}
    (hbelow : Below text request.uri.path.toList seen) (guard : Guard) (inner : Handler) :
    (literal text).wrap (guard.wrap inner) request =
      guard.wrap (fun request => inner (request.withPath seen)) request := by
  rw [wrap, (strip?_eq_some_iff h).mpr hbelow]
  exact guard.wrap_withPath inner request seen

theorem wrap_of_not_below (h : IsLiteral text)
    (hbelow : ∀ seen, ¬Below text request.uri.path.toList seen) (inner : Handler) :
    (literal text).wrap inner request = .ofStatus 404 := by
  unfold wrap
  cases hstrip : (literal text).strip? request.uri.path.toList with
  | none => rfl
  | some seen => exact absurd ((strip?_eq_some_iff h).mp hstrip) (hbelow seen)

end Mount

/-! ## The theorem -/

/-- **A mount does not change what a guard does.** A text without captures names a mount, and
under it a guard refuses a request for the mount itself, or for a path below it, with the answer
that it has without the mount, and hands on what it hands on without the mount. The handler sees
the method, the query, the headers and the body that came in, and what is seen of the path. Any
other request is not found, whatever is mounted; so is one whose path goes on, behind the path of
the mount, with something else than a slash. -/
theorem mounted_transparent {text : String} (h : Mount.IsLiteral text.toList) :
    ∃ mount, Mount.ofText? text = some mount ∧ ∀ (guard : Guard) (request : Request),
      (∀ seen, Mount.Below text.toList request.uri.path.toList seen →
        (∀ response, (∀ inner, mount.wrap (guard.wrap inner) request = response) ↔
          guard.Refuses request response) ∧
        ((∀ inner, mount.wrap (guard.wrap inner) request = inner (request.withPath seen)) ↔
          guard.HandsOn request)) ∧
      ((∀ seen, ¬Mount.Below text.toList request.uri.path.toList seen) →
        ∀ inner, mount.wrap inner request = .ofStatus 404) ∧
      (∀ c rest, c ≠ '/' → request.uri.path.toList = text.toList ++ c :: rest →
        ∀ inner, mount.wrap inner request = .ofStatus 404) := by
  refine ⟨_, Mount.ofText?_of_isLiteral h, fun guard request => ⟨?_, ?_, ?_⟩⟩
  · intro seen hbelow
    have hwrap := Mount.wrap_wrap_of_below h hbelow guard
    simp only [hwrap]
    exact ⟨fun _ => Guard.refuses_behind_iff _, Guard.handsOn_behind_iff _⟩
  · exact Mount.wrap_of_not_below h
  · intro c rest hc hpath
    refine Mount.wrap_of_not_below h fun seen hbelow => hc ?_
    rw [hpath] at hbelow
    exact hbelow.eq_slash

/-! ## A mount -/

/-- A guard without rules. -/
def openGuard : Guard :=
  ⟨.empty, 0⟩

/-- A request for a path. -/
def requestFor (path : String) : Request :=
  ⟨"GET", ⟨none, none, path, none⟩, ⟨none, none, path, none⟩, [], []⟩

theorem handsOn_openGuard (path : String) : openGuard.HandsOn (requestFor path) :=
  Guard.handsOn_of_ok rfl

theorem isLiteral_api : Mount.IsLiteral "/api".toList :=
  ⟨by decide, by decide, by decide, by decide⟩

theorem mounted_transparent_api :
    Mount.IsLiteral "/api".toList ∧ ∃ mount, Mount.ofText? "/api" = some mount ∧
      (∀ inner, mount.wrap (openGuard.wrap inner) (requestFor "/api/x") =
        inner ((requestFor "/api/x").withPath "/x".toList)) ∧
      ∀ inner, mount.wrap (openGuard.wrap inner) (requestFor "/apix") = .ofStatus 404 := by
  obtain ⟨mount, hmount, hall⟩ := mounted_transparent isLiteral_api
  refine ⟨isLiteral_api, mount, hmount, ?_, fun inner => ?_⟩
  · have hbelow : Mount.Below "/api".toList "/api/x".toList "/x".toList :=
      .slash (by decide) (by decide)
    exact ((hall openGuard (requestFor "/api/x")).1 _ hbelow).2.mpr (handsOn_openGuard _)
  · exact (hall openGuard (requestFor "/apix")).2.2 'x' [] (by decide) (by decide) _

/-- One of two slashes behind a mount is lost: what is behind `/api` and a slash is `/x`, and yet
it is not seen as `//x`. -/
theorem mounted_slashes :
    ∃ mount, Mount.ofText? "/api" = some mount ∧
      (requestFor "/api//x").uri.path = "/api" ++ "/" ++ "/x" ∧
      openGuard.HandsOn (requestFor "/api//x") ∧
      (∀ inner, mount.wrap (openGuard.wrap inner) (requestFor "/api//x") =
        inner ((requestFor "/api//x").withPath "/x".toList)) ∧
      ¬∀ inner, mount.wrap (openGuard.wrap inner) (requestFor "/api//x") =
        inner ((requestFor "/api//x").withPath ('/' :: "/x".toList)) := by
  have hbelow : Mount.Below "/api".toList "/api//x".toList "/x".toList := .slashes
  have hseen : ∀ inner, (Mount.literal "/api".toList).wrap (openGuard.wrap inner)
      (requestFor "/api//x") = inner ((requestFor "/api//x").withPath "/x".toList) := by
    intro inner
    rw [Mount.wrap_wrap_of_below isLiteral_api hbelow]
    exact handsOn_openGuard _ _
  refine ⟨_, Mount.ofText?_of_isLiteral isLiteral_api, rfl, handsOn_openGuard _, hseen, ?_⟩
  intro h
  -- a handler that answers with the length of the path tells the two apart
  let measure : Handler := fun request => .ofStatus request.uri.path.length
  have heq := congrArg Response.status ((hseen measure).symm.trans (h measure))
  revert heq
  decide

end Gatehouse.Http
