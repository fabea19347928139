import PyIota.ClientScripts

set_option autoImplicit false

namespace PyIota

open Coroutine

theorem filter_map_shorter {α β : Type} (items : List α) (first second : α → Option β)
    (below : ∀ item value, first item = some value → second item = some value) :
    (items.filterMap first).length ≤ (items.filterMap second).length := by
  induction items with
  | nil => exact le_rfl
  | cons item items ih =>
      cases found : first item with
      | some value =>
          rw [List.filterMap_cons_some found, List.filterMap_cons_some (below item value found)]
          exact Nat.succ_le_succ ih
      | none =>
          rw [List.filterMap_cons_none found]
          cases other : second item with
          | none =>
              rw [List.filterMap_cons_none other]
              exact ih
          | some value =>
              rw [List.filterMap_cons_some other]
              exact Nat.le_succ_of_le ih

-- Where one partial function extends another, only an item they differ on shows.
theorem filter_map_eq_iff {α β : Type} (items : List α) (first second : α → Option β)
    (below : ∀ item value, first item = some value → second item = some value) :
    items.filterMap first = items.filterMap second ↔ ∀ item ∈ items, first item = second item := by
  refine ⟨?_, ?_⟩
  · intro same
    induction items with
    | nil => exact List.forall_mem_nil _
    | cons item items ih =>
        cases found : first item with
        | some value =>
            have other := below item value found
            rw [List.filterMap_cons_some found, List.filterMap_cons_some other] at same
            rw [List.forall_mem_cons, found, other]
            exact ⟨rfl, ih (List.cons.inj same).2⟩
        | none =>
            rw [List.filterMap_cons_none found] at same
            cases other : second item with
            | none =>
                rw [List.filterMap_cons_none other] at same
                rw [List.forall_mem_cons, found, other]
                exact ⟨rfl, ih same⟩
            | some value =>
                -- One more on the right, and nothing on the left to make up for it.
                rw [List.filterMap_cons_some other] at same
                have shorter := filter_map_shorter items first second below
                rw [same, List.length_cons] at shorter
                omega
  · intro each
    exact List.filterMap_congr each

section

variable (pydantic : Pydantic)

-- What get_object() makes of the answer for one object.
def lookedUp (asked : Str × Json) : Except PyError FullObjectData :=
  construct pydantic.objectResponse asked.2 >>= ObjectResponse.orNotFound asked.1

theorem get_object_looks_up (node : Node) (world : World Transaction Request) (objectId : Str) (options : ShowOptions)
    (answer : Json) (answered : reply node world.sent (objectRequest objectId options) = .ok answer) :
    ClientsSettle (IotaClient.getFullObject pydantic objectId options)
      (SyncIotaClient.getFullObject pydantic node objectId options) node world (lookedUp pydantic (objectId, answer))
      ⟨world.state, world.sent ++ [objectRequest objectId options]⟩ := by
  have settles := object_asks pydantic objectId options node world
  have result : askedResult node world (.ok (objectRequest objectId options))
      (fun result => construct pydantic.objectResponse result >>= ObjectResponse.orNotFound objectId) =
        lookedUp pydantic (objectId, answer) := by
    change (reply node world.sent _ >>= _) = _
    rw [answered]
    rfl
  rw [result] at settles
  exact mirrored_settles _ _ node world _ _ (object_mirrors node _ objectId options) settles

def kept (asked : Str × Json) : Option FullObjectData :=
  (construct pydantic.objectResponse asked.2).toOption.bind ObjectResponse.data

def foundSingly (asked : List (Str × Json)) : List FullObjectData :=
  asked.filterMap fun one => (lookedUp pydantic one).toOption

theorem found_objects_ok (asked : List (Str × Json)) (objects : List FullObjectData) :
    foundObjects pydantic (asked.map Prod.snd) = .ok objects ↔
      (∀ one ∈ asked, ∃ response, construct pydantic.objectResponse one.2 = .ok response) ∧
        objects = asked.filterMap (kept pydantic) := by
  induction asked generalizing objects with
  | nil => simp [foundObjects, eq_comm]
  | cons one asked ih =>
      rw [List.forall_mem_cons, List.map_cons, foundObjects, Fallible.bind_ok]
      cases made : construct pydantic.objectResponse one.2 with
      | error error => simp
      | ok response =>
          have here : kept pydantic one = response.data := by
            rw [kept, made]
            rfl
          have whole : (one :: asked).filterMap (kept pydantic) =
              response.data.toList ++ asked.filterMap (kept pydantic) := by
            cases data : response.data with
            | none => rw [List.filterMap_cons_none (here.trans data)]; rfl
            | some value => rw [List.filterMap_cons_some (here.trans data)]; rfl
          rw [whole]
          refine ⟨?_, ?_⟩
          · intro ⟨same, sameEq, rest⟩
            cases sameEq
            obtain ⟨tail, tailFound, objectsEq⟩ := (Fallible.bind_ok _ _ _).mp rest
            obtain ⟨decoded, rfl⟩ := (ih tail).mp tailFound
            exact ⟨⟨⟨_, rfl⟩, decoded⟩, (Except.ok.inj objectsEq).symm⟩
          · intro ⟨⟨_, decoded⟩, objectsEq⟩
            refine ⟨response, rfl, (Fallible.bind_ok _ _ _).mpr ⟨_, (ih _).mpr ⟨decoded, rfl⟩, ?_⟩⟩
            rw [objectsEq]
            rfl

theorem looked_up_kept (one : Str × Json) (data : FullObjectData)
    (found : (lookedUp pydantic one).toOption = some data) : kept pydantic one = some data := by
  unfold lookedUp kept at *
  cases made : construct pydantic.objectResponse one.2 with
  | error error =>
      rw [made] at found
      cases found
  | ok response =>
      rw [made] at found
      obtain ⟨responseData, error⟩ := response
      cases error with
      | some error => cases found
      | none =>
          cases responseData with
          | none => cases found
          | some value => exact found

theorem looked_up_eq_kept_iff (one : Str × Json) (response : FullObjectResponse)
    (made : construct pydantic.objectResponse one.2 = .ok response) :
    (lookedUp pydantic one).toOption = kept pydantic one ↔ response.error = none ∨ response.data = none := by
  unfold lookedUp kept
  rw [made]
  obtain ⟨data, error⟩ := response
  cases error with
  | none => cases data <;> exact iff_of_true rfl (Or.inl rfl)
  | some error =>
      cases data with
      | none => exact iff_of_true rfl (Or.inr rfl)
      | some value => exact iff_of_false (fun same => (nomatch same)) (fun either => either.elim (nomatch ·) (nomatch ·))

theorem found_objects_agree_iff (asked : List (Str × Json)) :
    foundObjects pydantic (asked.map Prod.snd) = .ok (foundSingly pydantic asked) ↔
      ∀ one ∈ asked, ∃ response, construct pydantic.objectResponse one.2 = .ok response ∧
        (response.error = none ∨ response.data = none) := by
  rw [found_objects_ok, foundSingly, filter_map_eq_iff asked _ _ (looked_up_kept pydantic)]
  refine ⟨?_, ?_⟩
  · intro ⟨decoded, same⟩ one member
    obtain ⟨response, made⟩ := decoded one member
    exact ⟨response, made, (looked_up_eq_kept_iff pydantic one response made).mp (same one member)⟩
  · intro each
    refine ⟨?_, ?_⟩
    · intro one member
      obtain ⟨response, made, _⟩ := each one member
      exact ⟨response, made⟩
    · intro one member
      obtain ⟨response, made, either⟩ := each one member
      exact (looked_up_eq_kept_iff pydantic one response made).mpr either

-- The bulk request finds what single requests for the same answers find, and ends
-- well, just if every answer decodes and none has both an object and an error.
theorem bulk_lookup_agrees_iff (asked : List (Str × Json)) (showContent showOwner showType : Bool) (node : Node)
    (world : World Transaction Request)
    (answered : reply node world.sent (multiRequest (asked.map Prod.fst) showContent showOwner showType) =
      .ok (.list (asked.map Prod.snd))) :
    ClientsSettle (IotaClient.multiGetObjects pydantic (asked.map Prod.fst) showContent showOwner showType)
        (SyncIotaClient.multiGetObjects pydantic node (asked.map Prod.fst) showContent showOwner showType) node world
        (.ok (foundSingly pydantic asked))
        ⟨world.state, world.sent ++ [multiRequest (asked.map Prod.fst) showContent showOwner showType]⟩ ↔
      ∀ one ∈ asked, ∃ response, construct pydantic.objectResponse one.2 = .ok response ∧
        (response.error = none ∨ response.data = none) := by
  have asks : Settles
      (SyncIotaClient.multiGetObjects pydantic node (asked.map Prod.fst) showContent showOwner showType) world
      (askedResult node world (.ok (multiRequest (asked.map Prod.fst) showContent showOwner showType))
        fun result => do foundObjects pydantic (← result.iterate))
      ⟨world.state, world.sent ++ [multiRequest (asked.map Prod.fst) showContent showOwner showType]⟩ :=
    asked_checked (str "iota_multiGetObjects") (some _) _ node world
  have result : askedResult node world (.ok (multiRequest (asked.map Prod.fst) showContent showOwner showType))
      (fun result => do foundObjects pydantic (← result.iterate)) = foundObjects pydantic (asked.map Prod.snd) := by
    change (reply node world.sent _ >>= _) = _
    rw [answered]
    rfl
  rw [result] at asks
  rw [← found_objects_agree_iff]
  refine ⟨?_, ?_⟩
  · intro both
    exact settled_inj _ _ _ (asks.symm.trans both.1)
  · intro same
    rw [same] at asks
    exact mirrored_settles _ _ node world _ _
      (api_call_mirrors pydantic node (.multiGetObjects (asked.map Prod.fst) showContent showOwner showType)) asks

end

def rendered : Json := .dict [(str "data", .dict [(str "objectId", .str (str "0x2"))])]

-- An object that could not be rendered: the node sends it with the error.
def unrendered : Json := .dict [
  (str "data", .dict [(str "objectId", .str (str "0x1"))]),
  (str "error", .dict [(str "code", .str (str "displayError"))])]

def unknownObject : Json := .dict [(str "error", .dict [(str "code", .str (str "notExists"))])]

def threeObjects : List (Str × Json) := [(str "0x2", rendered), (str "0x1", unrendered), (str "0x3", unknownObject)]

def threeObjectsNode : Node := fun _ => .ok (.dict [(str "result", .list (threeObjects.map Prod.snd))])

theorem unrendered_object_differs :
    ¬ ClientsSettle (IotaClient.multiGetObjects strictPydantic [str "0x2", str "0x1", str "0x3"] true false false)
        (SyncIotaClient.multiGetObjects strictPydantic threeObjectsNode [str "0x2", str "0x1", str "0x3"] true false false)
        threeObjectsNode freshWorld (.ok (foundSingly strictPydantic threeObjects))
        ⟨{}, [multiRequest [str "0x2", str "0x1", str "0x3"] true false false]⟩ ∧
      (foundSingly strictPydantic threeObjects).map (·.objectId) = [str "0x2"] ∧
      (threeObjects.filterMap (kept strictPydantic)).map (·.objectId) = [str "0x2", str "0x1"] := by
  refine ⟨?_, rfl, rfl⟩
  intro both
  obtain ⟨response, made, either⟩ := (bulk_lookup_agrees_iff strictPydantic threeObjects true false false
    threeObjectsNode freshWorld rfl).mp both (str "0x1", unrendered) (List.mem_cons_of_mem _ List.mem_cons_self)
  cases made
  rcases either with noError | noData
  · cases noError
  · cases noData

end PyIota
