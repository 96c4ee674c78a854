import Gatehouse.Proofs.Http.GatewayCheck
/-!
Which origins the answers of a gateway allow.

A configuration lists origins, but not every text on the list can be in a header, and those that
cannot are dropped. That does not open the gateway: also when nothing is left on the list, no
origin is allowed, where without a list every origin would be.

    a legal origin on the list   →  the answer allows it, and nothing else
    any other, or none           →  the answer allows no origin              (allows_listed_origin)

Only the rules for origins write the header that allows an origin. So the origins that an answer
allows are the same whatever became of the request (`allowedOrigins_handler`).
-/

namespace Gatehouse.Http

/-! ## Texts that can be in a header -/

/-- A text that can be the value of a header: it has no control character but tabs. -/
def Headers.IsLegal (text : String) : Prop :=
  ∀ c ∈ text.toList, c = '\t' ∨ 0x20 ≤ c.toNat ∧ c.toNat ≠ 0x7F

theorem Origins.isLegalByte_iff (b : UInt8) :
    isLegalByte b = true ↔ b.toNat = 0x09 ∨ 0x20 ≤ b.toNat ∧ b.toNat ≠ 0x7F := by
  simp only [isLegalByte, Bool.or_eq_true, Bool.and_eq_true, decide_eq_true_eq, bne_iff_ne,
    beq_iff_eq, or_comm]

/-- A character has legal bytes unless it is a control character of ASCII. -/
theorem Origins.all_encodeChar_iff (c : Char) :
    (Utf8.encodeChar c).all isLegalByte = true ↔
      c = '\t' ∨ 0x20 ≤ c.toNat ∧ c.toNat ≠ 0x7F := by
  have htab : c = '\t' ↔ c.toNat = 0x09 := ⟨fun h => h ▸ rfl, fun h => Char.toNat_inj.mp h⟩
  rw [htab, List.all_eq_true]
  simp only [isLegalByte_iff]
  by_cases h : c.toNat < 0x80
  · rw [Utf8.encodeChar_of_lt h, List.forall_mem_singleton, Utf8.toNat_ofNat (by omega)]
  · refine iff_of_true (fun b hb => ?_) (by omega)
    rcases Utf8.mem_encodeChar hb with ⟨-, hlt⟩ | ⟨hlow, -⟩
    · exact absurd hlt h
    · omega

theorem Origins.all_encode_iff (text : String) :
    (Utf8.encode text).all isLegalByte = true ↔ Headers.IsLegal text := by
  unfold Utf8.encode Headers.IsLegal
  rw [List.all_flatMap, List.all_eq_true]
  simp only [all_encodeChar_iff]

/-! ## The header that allows an origin -/

namespace Response

/-- The origins that an answer allows. -/
def allowedOrigins (response : Response) : List (List UInt8) :=
  response.headers.filterMap fun header =>
    if header.1 = "access-control-allow-origin" then some header.2 else none

variable (response : Response)

theorem allowedOrigins_addHeader (value : List UInt8) :
    (response.addHeader "access-control-allow-origin" value).allowedOrigins =
      response.allowedOrigins ++ [value] := by
  unfold allowedOrigins addHeader
  rw [List.filterMap_append]
  rfl

theorem allowedOrigins_addText {name : String} (h : name ≠ "access-control-allow-origin")
    (text : String) : (response.addText name text).allowedOrigins = response.allowedOrigins := by
  unfold allowedOrigins addText addHeader
  simp only [List.filterMap_append, List.filterMap_cons, if_neg h, List.filterMap_nil,
    List.append_nil]

end Response

/-- What is behind the rules for origins does not write the header. -/
theorem allowedOrigins_guard (guard : Guard) (request : Request) :
    (guard.wrap endpoint request).allowedOrigins = [] := by
  unfold Guard.wrap
  split
  · rfl
  · unfold endpoint
    split
    · rfl
    · split <;> rfl

namespace Origins

variable (origins : Origins) (headers : Headers) {response : Response}

/-- Marking an answer allows the origin that the rules allow. -/
theorem allowedOrigins_mark (h : response.allowedOrigins = []) :
    (origins.mark headers response).allowedOrigins = (origins.allowed? headers).toList := by
  unfold mark
  rw [Response.allowedOrigins_addText _ (by decide)]
  cases origins.allowed? headers with
  | none => exact h
  | some origin =>
    show (response.addHeader _ origin).allowedOrigins = [origin]
    rw [Response.allowedOrigins_addHeader, h, List.nil_append]

theorem allowedOrigins_preflight :
    (origins.preflight headers).allowedOrigins = (origins.allowed? headers).toList := by
  unfold preflight
  rw [Response.allowedOrigins_addText _ (by decide), Response.allowedOrigins_addText _ (by decide),
    allowedOrigins_mark]
  rfl

/-- A list allows the legal texts on it, by their bytes. A list that is not empty is not taken for no
list, however few of its texts are legal. -/
theorem allowed?_eq_some_iff {origins : Origins} {texts : List String} {value : List UInt8}
    (hlist : texts ≠ []) (h : ofList? texts = some origins) :
    origins.allowed? headers = some value ↔
      ∃ origin ∈ texts, Headers.IsLegal origin ∧ headers.first? "origin" = some value ∧
        value = Utf8.encode origin := by
  unfold ofList? at h
  rw [if_neg (by rwa [List.isEmpty_iff])] at h
  dsimp only at h
  split at h
  · cases h
  · obtain rfl := Option.some.inj h
    unfold allowed?
    rw [Option.filter_eq_some_iff, List.contains_iff_mem, List.mem_filter, List.mem_map]
    constructor
    · rintro ⟨hsent, ⟨origin, hmem, rfl⟩, hlegal⟩
      exact ⟨origin, hmem, (all_encode_iff origin).mp hlegal, hsent, rfl⟩
    · rintro ⟨origin, hmem, hlegal, hsent, rfl⟩
      exact ⟨hsent, ⟨origin, hmem, rfl⟩, (all_encode_iff origin).mpr hlegal⟩

end Origins

theorem allowedOrigins_finish (request : Request) (response : Response) :
    (finish request response).allowedOrigins = response.allowedOrigins := by
  unfold finish
  split
  · rfl
  · split
    · rfl
    · exact Response.allowedOrigins_addText _ (by decide) _

/-! ## Gateways -/

/-- The configuration lists the origin of a request, and it is one that can be in a header. Of more
than one header `origin` the first counts. -/
structure ListsOrigin (config : Server.Config) (request : Request) (origin : String) : Prop where
  listed : origin ∈ config.origins
  legal : Headers.IsLegal origin
  sent : request.headers.first? "origin" = some (Utf8.encode origin)

namespace Gateway

/-- What the rules for origins allow does not depend on what becomes of the request. -/
theorem allowedOrigins_handler (gateway : Gateway) (request : Request) :
    (gateway.handler request).allowedOrigins =
      (gateway.origins.allowed? request.headers).toList := by
  unfold handler Origins.wrap
  rw [allowedOrigins_finish]
  split
  · exact Origins.allowedOrigins_preflight _ _
  · exact Origins.allowedOrigins_mark _ _ (allowedOrigins_guard _ _)

/-- An answer allows the origin of the request, if the configuration lists it. -/
theorem mem_allowedOrigins_iff {config : Server.Config} {table : Rules.Table} {gateway : Gateway}
    (hlist : config.origins ≠ []) (h : ofConfig? config table = some gateway) (request : Request)
    (value : List UInt8) :
    value ∈ (gateway.handler request).allowedOrigins ↔
      ∃ origin, ListsOrigin config request origin ∧ value = Utf8.encode origin := by
  obtain ⟨origins, horigins, rfl⟩ := Option.map_eq_some_iff.mp h
  rw [allowedOrigins_handler, Option.mem_toList, Origins.allowed?_eq_some_iff _ hlist horigins]
  constructor
  · rintro ⟨origin, hmem, hlegal, hsent, rfl⟩
    exact ⟨origin, ⟨hmem, hlegal, hsent⟩, rfl⟩
  · rintro ⟨origin, ⟨hmem, hlegal, hsent⟩, rfl⟩
    exact ⟨origin, hmem, hlegal, hsent, rfl⟩

/-- **A list of origins allows the legal origins on it and no others.** A configuration that lists
origins, but not `*`, has a gateway. Its answer to a request allows an origin if and only if the
origin of the request is on the list and legal; then it allows this one, and never `*`. If no origin
on the list is legal, no answer allows any. -/
theorem allows_listed_origin (config : Server.Config) (table : Rules.Table)
    (hlist : config.origins ≠ []) (hstar : "*" ∉ config.origins) :
    ∃ gateway, ofConfig? config table = some gateway ∧
      (∀ request,
        ((gateway.handler request).allowedOrigins ≠ [] ↔
          ∃ origin, ListsOrigin config request origin) ∧
        (∀ origin, ListsOrigin config request origin →
          (gateway.handler request).allowedOrigins = [Utf8.encode origin]) ∧
        Utf8.encode "*" ∉ (gateway.handler request).allowedOrigins) ∧
      ((∀ origin ∈ config.origins, ¬Headers.IsLegal origin) →
        ∀ request, (gateway.handler request).allowedOrigins = []) := by
  obtain ⟨gateway, hgateway⟩ := (exists_ofConfig?_iff config table).mpr hstar
  refine ⟨gateway, hgateway, ?_⟩
  have hmem := mem_allowedOrigins_iff hlist hgateway
  refine ⟨fun request => ⟨⟨?_, ?_⟩, ?_, ?_⟩, ?_⟩
  · intro hne
    obtain ⟨value, hvalue⟩ := List.exists_mem_of_ne_nil _ hne
    obtain ⟨origin, horigin, -⟩ := (hmem request value).mp hvalue
    exact ⟨origin, horigin⟩
  · rintro ⟨origin, horigin⟩
    exact List.ne_nil_of_mem ((hmem request _).mpr ⟨origin, horigin, rfl⟩)
  · -- the rules for origins allow one at most, so it is this one
    intro origin horigin
    have hallowed := (hmem request _).mpr ⟨origin, horigin, rfl⟩
    rw [allowedOrigins_handler, Option.mem_toList] at hallowed
    rw [allowedOrigins_handler, hallowed, Option.toList_some]
  · intro hany
    obtain ⟨origin, horigin, heq⟩ := (hmem request _).mp hany
    exact hstar (Utf8.encode_inj.mp heq ▸ horigin.listed)
  · intro hillegal request
    refine List.eq_nil_iff_forall_not_mem.mpr fun value hvalue => ?_
    obtain ⟨origin, horigin, -⟩ := (hmem request value).mp hvalue
    exact hillegal origin horigin.listed horigin.legal

/-- A list with one text that can be in a header and one that cannot. -/
def brokenList : Server.Config :=
  { Server.Config.default with origins := ["http://a.com", "b\nc"] }

/-- A request with an origin. -/
def fromOrigin (origin : String) : Request :=
  ⟨"GET", ⟨none, none, "/x", none⟩, ⟨none, none, "/x", none⟩, [("origin", Utf8.encode origin)], []⟩

/-- The first origin on the list is allowed, and the second is not. -/
theorem allowedOrigins_brokenList : brokenList.origins ≠ [] ∧ "*" ∉ brokenList.origins ∧
    ∃ gateway, ofConfig? brokenList .empty = some gateway ∧
      (gateway.handler (fromOrigin "http://a.com")).allowedOrigins =
        [Utf8.encode "http://a.com"] ∧
      (gateway.handler (fromOrigin "b\nc")).allowedOrigins = [] := by
  have hlist : brokenList.origins ≠ [] := by decide
  have hstar : "*" ∉ brokenList.origins := by decide
  obtain ⟨gateway, hgateway, hallowed, -⟩ := allows_listed_origin brokenList .empty hlist hstar
  refine ⟨hlist, hstar, gateway, hgateway, ?_, ?_⟩
  · have hlegal : Headers.IsLegal "http://a.com" := (Origins.all_encode_iff _).mp rfl
    exact (hallowed (fromOrigin "http://a.com")).2.1 "http://a.com" ⟨by decide, hlegal, rfl⟩
  · refine Decidable.byContradiction fun hne => ?_
    obtain ⟨origin, horigin⟩ := (hallowed (fromOrigin "b\nc")).1.mp hne
    have heq : "b\nc" = origin := Utf8.encode_inj.mp (Option.some.inj horigin.sent)
    have hillegal : (Utf8.encode "b\nc").all Origins.isLegalByte = false := rfl
    have hlegal := (Origins.all_encode_iff "b\nc").mpr (heq ▸ horigin.legal)
    cases hillegal.symm.trans hlegal

end Gateway

end Gatehouse.Http
