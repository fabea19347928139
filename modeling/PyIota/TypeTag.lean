import PyIota.Address
import PyIota.BcsWriter
import PyIota.Library.Nesting

set_option autoImplicit false

namespace PyIota

open Emitter

inductive TypeTagKind where
  | bool
  | u8
  | u64
  | u128
  | address
  | signer
  | vector
  | struct
  | u16
  | u32
  | u256
deriving DecidableEq

def TypeTagKind.index : TypeTagKind → Nat
  | .bool => 0
  | .u8 => 1
  | .u64 => 2
  | .u128 => 3
  | .address => 4
  | .signer => 5
  | .vector => 6
  | .struct => 7
  | .u16 => 8
  | .u32 => 9
  | .u256 => 10

def primitives : List (Str × TypeTagKind) := [
  (str "bool", .bool),
  (str "u8", .u8),
  (str "u16", .u16),
  (str "u32", .u32),
  (str "u64", .u64),
  (str "u128", .u128),
  (str "u256", .u256),
  (str "address", .address),
  (str "signer", .signer)]

-- The scan for the '<' to split at: its position, or -1.
def findSplitPos (depth : Int) (i : Nat) : Str → Int
  | [] => -1
  | ch :: rest =>
      if ch = cp '<' ∧ depth = 0 then i
      else if ch = cp '<' then findSplitPos (depth + 1) (i + 1) rest
      else if ch = cp '>' then findSplitPos (depth - 1) (i + 1) rest
      else findSplitPos depth (i + 1) rest

def structBase (typeStr : Str) : Str :=
  let splitPos := findSplitPos 0 0 typeStr
  if 0 ≤ splitPos then slice typeStr 0 splitPos else typeStr

def structTypeParamsStr (typeStr : Str) : Str :=
  let splitPos := findSplitPos 0 0 typeStr
  if 0 ≤ splitPos then slice typeStr (splitPos + 1) (-1) else []

def splitTypeParamsLoop (params : List Str) (depth : Int) (current : Str) : Str → List Str
  | [] => if strip current ≠ [] then params ++ [strip current] else params
  | ch :: rest =>
      if ch = cp '<' then splitTypeParamsLoop params (depth + 1) (current ++ [ch]) rest
      else if ch = cp '>' then splitTypeParamsLoop params (depth - 1) (current ++ [ch]) rest
      else if ch = cp ',' ∧ depth = 0 then splitTypeParamsLoop (params ++ [strip current]) depth [] rest
      else splitTypeParamsLoop params depth (current ++ [ch]) rest

def splitTypeParams (paramsStr : Str) : List Str := splitTypeParamsLoop [] 0 [] paramsStr

def angleMarks : Nesting.Marks CodePoint :=
  ⟨cp '<', cp '>', cp ',', by decide, by decide, by decide⟩

-- The last piece is dropped when nothing but white space is left of it.
def keepPieces (pieces : List Str) : List Str :=
  pieces.dropLast.map strip ++ if strip (pieces.getLastD []) = [] then [] else [strip (pieces.getLastD [])]

theorem keep_pieces_cons (piece : Str) (pieces : List Str) (more : pieces ≠ []) :
    keepPieces (piece :: pieces) = strip piece :: keepPieces pieces := by
  cases pieces with
  | nil => exact absurd rfl more
  | cons next rest => simp [keepPieces]

theorem angle_pieces_cons (depth : Int) (current rest : Str) (ch : CodePoint) :
    Nesting.pieces angleMarks depth current (ch :: rest) =
      if ch = cp '<' then Nesting.pieces angleMarks (depth + 1) (current ++ [ch]) rest
      else if ch = cp '>' then Nesting.pieces angleMarks (depth - 1) (current ++ [ch]) rest
      else if ch = cp ',' ∧ depth = 0 then current :: Nesting.pieces angleMarks depth [] rest
      else Nesting.pieces angleMarks depth (current ++ [ch]) rest := rfl

theorem split_type_params_loop_eq (params : List Str) (depth : Int) (current text : Str) :
    splitTypeParamsLoop params depth current text =
      params ++ keepPieces (Nesting.pieces angleMarks depth current text) := by
  fun_induction splitTypeParamsLoop params depth current text with
  | case1 params depth current kept => simp [Nesting.pieces, keepPieces, kept]
  | case2 params depth current dropped => simp_all [Nesting.pieces, keepPieces]
  | case3 params depth current rest ih => rw [ih, angle_pieces_cons, if_pos rfl]
  | case4 params depth current rest _ ih => rw [ih, angle_pieces_cons, if_neg (by decide), if_pos rfl]
  | case5 params depth current ch rest notOpening notClosing cut ih =>
      rw [ih, angle_pieces_cons, if_neg notOpening, if_neg notClosing, if_pos cut,
        keep_pieces_cons current _ (Nesting.pieces_ne_nil _ _ _ _), List.append_assoc]
      rfl
  | case6 params depth current ch rest notOpening notClosing kept ih =>
      rw [ih, angle_pieces_cons, if_neg notOpening, if_neg notClosing, if_neg kept]

theorem split_type_params_eq (text : Str) :
    splitTypeParams text = keepPieces (Nesting.pieces angleMarks 0 [] text) :=
  split_type_params_loop_eq [] 0 [] text

theorem length_split_type_params_le (text : Str) : ∀ param ∈ splitTypeParams text, param.length ≤ text.length := by
  intro param member
  rw [split_type_params_eq] at member
  have bound := Nesting.length_pieces_le angleMarks 0 [] text
  have pieceOf : ∃ piece ∈ Nesting.pieces angleMarks 0 [] text, param = strip piece := by
    rcases List.mem_append.mp member with early | last
    · obtain ⟨piece, inPieces, rfl⟩ := List.mem_map.mp early
      exact ⟨piece, List.mem_of_mem_dropLast inPieces, rfl⟩
    · split at last
      · cases last
      · have nonempty := Nesting.pieces_ne_nil angleMarks 0 [] text
        refine ⟨_, List.getLast_mem nonempty, ?_⟩
        rw [List.mem_singleton.mp last, List.getLastD_eq_getLast?, List.getLast?_eq_some_getLast nonempty]
        rfl
  obtain ⟨piece, inPieces, rfl⟩ := pieceOf
  have small := bound piece inPieces
  have stripped := length_strip_le piece
  rw [List.length_nil] at small
  omega

theorem find_split_pos_range (depth : Int) (i : Nat) (text : Str) :
    findSplitPos depth i text = -1 ∨
      (i ≤ findSplitPos depth i text ∧ findSplitPos depth i text < i + text.length) := by
  fun_induction findSplitPos depth i text with
  | case1 => exact Or.inl rfl
  | case2 => simp
  | case3 _ _ _ _ ih => simp only [List.length_cons] at ih ⊢; omega
  | case4 _ _ _ _ ih => simp only [List.length_cons] at ih ⊢; omega
  | case5 _ _ _ _ _ _ _ ih => simp only [List.length_cons] at ih ⊢; omega

theorem length_struct_type_params_str_lt (typeStr : Str) (present : structTypeParamsStr typeStr ≠ []) :
    (structTypeParamsStr typeStr).length < typeStr.length := by
  unfold structTypeParamsStr at present ⊢
  rcases find_split_pos_range 0 0 typeStr with none | ⟨nonneg, within⟩
  · simp [none] at present
  · obtain ⟨pos, posEq⟩ := Int.eq_ofNat_of_zero_le (by simpa using nonneg : 0 ≤ findSplitPos 0 0 typeStr)
    simp only [posEq, Int.natCast_nonneg, if_true] at present ⊢
    have cut := slice_drop_last typeStr (pos + 1)
    push_cast at cut
    rw [cut, List.length_drop, List.length_dropLast]
    omega

-- w.write_fixed_bytes(x.serialize())
def writeSerialized (data : Except PyError Bytes) : Writer Unit := do
  let bytes ← MonadExcept.ofExcept data
  writeFixedBytes bytes

theorem write_serialized_eq (data : Except PyError Bytes) : writeSerialized data = write data := by
  cases data <;> rfl

def invalidStructType (typeStr : Str) : PyError :=
  .valueError (str "Invalid struct type: " ++ typeStr ++ str ". Expected address::module::name")

def VectorShaped (typeStr : Str) : Prop := startswith typeStr (str "vector<") ∧ endswith typeStr (str ">")

instance (typeStr : Str) : Decidable (VectorShaped typeStr) :=
  inferInstanceAs (Decidable (startswith typeStr (str "vector<") ∧ endswith typeStr (str ">")))

mutual

def serializeTypeTag (typeStr : Str) : Except PyError Bytes :=
  match primitives.lookup typeStr with
  | some kind => finish (writeVariantIndex kind.index)
  | none =>
      if vector : VectorShaped typeStr then finish do
        writeVariantIndex TypeTagKind.vector.index
        writeSerialized (serializeTypeTag (slice typeStr 7 (-1)))
      else finish do
        writeVariantIndex TypeTagKind.struct.index
        writeSerialized (serializeStructTag typeStr)
termination_by (typeStr.length, 1)
decreasing_by
  · obtain ⟨⟨tail, rfl⟩, _⟩ := vector
    have cut := slice_drop_last (str "vector<" ++ tail) 7
    push_cast at cut
    rw [cut]
    refine Prod.Lex.left _ _ ?_
    simp only [List.length_drop, List.length_dropLast, List.length_append]
    have seven : (str "vector<").length = 7 := rfl
    omega
  · exact Prod.Lex.right _ (by decide)

def serializeStructTag (typeStr : Str) : Except PyError Bytes :=
  match splitColons (structBase typeStr) with
  | [addressStr, module, name] => finish do
      writeSerialized (addressBytes addressStr)
      writeStr module
      writeStr name
      if _present : structTypeParamsStr typeStr ≠ [] then
        let typeParams := splitTypeParams (structTypeParamsStr typeStr)
        writeVectorLength typeParams.length
        typeParams.attach.forM fun param => writeSerialized (serializeTypeTag (strip param.val))
      else writeVectorLength 0
  | _ => .error (invalidStructType typeStr)
termination_by (typeStr.length, 0)
decreasing_by
  refine Prod.Lex.left _ _ ?_
  have shorter := length_struct_type_params_str_lt typeStr _present
  have piece := length_split_type_params_le _ param.val param.property
  have stripped := length_strip_le param.val
  omega

end

-- The type parameters as they are handed to the recursive calls.
def structParams (typeStr : Str) : List Str :=
  if structTypeParamsStr typeStr ≠ [] then (splitTypeParams (structTypeParamsStr typeStr)).map strip else []

theorem serialize_type_tag_primitive (typeStr : Str) (kind : TypeTagKind)
    (found : primitives.lookup typeStr = some kind) : serializeTypeTag typeStr = .ok (Leb128.encode kind.index) := by
  rw [serializeTypeTag, found]
  simp only [finish, write_variant_index_eq]
  rfl

theorem serialize_type_tag_vector (typeStr : Str) (other : primitives.lookup typeStr = none)
    (vector : VectorShaped typeStr) : serializeTypeTag typeStr =
      (serializeTypeTag (slice typeStr 7 (-1))).map (6 :: ·) := by
  rw [serializeTypeTag, other]
  simp only [finish, write_variant_index_eq, write_serialized_eq]
  rw [dif_pos vector, emitted_seq _ _ (framed_write _), emitted_append, emitted_write,
    Leb128.encode_small TypeTagKind.vector.index (by decide)]
  cases serializeTypeTag (slice typeStr 7 (-1)) <;> rfl

theorem serialize_type_tag_struct (typeStr : Str) (other : primitives.lookup typeStr = none)
    (notVector : ¬ VectorShaped typeStr) : serializeTypeTag typeStr =
      (serializeStructTag typeStr).map (7 :: ·) := by
  rw [serializeTypeTag, other]
  simp only [finish, write_variant_index_eq, write_serialized_eq]
  rw [dif_neg notVector, emitted_seq _ _ (framed_write _), emitted_append, emitted_write,
    Leb128.encode_small TypeTagKind.struct.index (by decide)]
  cases serializeStructTag typeStr <;> rfl

theorem for_m_attach (params : List Str) (body : Str → Writer Unit) :
    params.attach.forM (fun param => body (strip param.val)) = (params.map strip).forM body := by
  conv => rhs; rw [← List.attach_map_subtype_val params]
  rw [List.map_map]
  exact List.forM_map.symm

def structTagTail (params : List Str) : Writer Unit := do
  append (Leb128.encode params.length)
  params.forM fun param => write (serializeTypeTag param)

theorem struct_tag_tail_nil : structTagTail [] = writeVectorLength 0 := by
  change (append (Leb128.encode 0) >>= fun _ => pure ()) = writeVectorLength ((0 : Nat) : Int)
  rw [bind_pure_unit, write_vector_length_eq]

theorem framed_struct_tag_tail (params : List Str) : Framed (structTagTail params) :=
  framed_bind _ _ (framed_append _) (fun _ => framed_for_m params _ fun _ => framed_write _)

theorem emitted_struct_tag_tail (params : List Str) : emitted (structTagTail params) = (do
    let pieces ← params.mapM serializeTypeTag
    pure (Leb128.encode params.length ++ pieces.flatten)) := by
  rw [structTagTail, emitted_seq _ _ (framed_for_m params _ fun _ => framed_write _), emitted_append,
    emitted_for_m_write]
  cases params.mapM serializeTypeTag <;> rfl

theorem serialize_struct_tag_eq (typeStr addressStr module name : Str)
    (parts : splitColons (structBase typeStr) = [addressStr, module, name]) : serializeStructTag typeStr = (do
      let address ← addressBytes addressStr
      let moduleData ← encodeStr module
      let nameData ← encodeStr name
      let params ← (structParams typeStr).mapM serializeTypeTag
      pure (address ++ (moduleData ++ (nameData ++ (Leb128.encode (structParams typeStr).length ++ params.flatten))))) := by
  have unfolded : serializeStructTag typeStr = emitted (do
      write (addressBytes addressStr)
      write (encodeStr module)
      write (encodeStr name)
      structTagTail (structParams typeStr)) := by
    rw [serializeStructTag, parts]
    simp only [finish, write_vector_length_eq, write_serialized_eq, write_str_eq]
    by_cases present : structTypeParamsStr typeStr ≠ []
    · simp only [dif_pos present, structTagTail, structParams, if_pos present, List.length_map,
        for_m_attach _ fun param => write (serializeTypeTag param)]
    · simp only [dif_neg present, structParams, if_neg present, struct_tag_tail_nil]
  rw [unfolded, emitted_seq _ _ (framed_bind _ _ (framed_write _) fun _ =>
      framed_bind _ _ (framed_write _) fun _ => framed_struct_tag_tail _),
    emitted_seq _ _ (framed_bind _ _ (framed_write _) fun _ => framed_struct_tag_tail _),
    emitted_seq _ _ (framed_struct_tag_tail _), emitted_struct_tag_tail]
  simp only [emitted_write, bind_assoc, pure_bind]

theorem serialize_struct_tag_invalid (typeStr : Str)
    (parts : ∀ addressStr module name, splitColons (structBase typeStr) ≠ [addressStr, module, name]) :
    serializeStructTag typeStr = .error (invalidStructType typeStr) := by
  rw [serializeStructTag]
  split
  · rename_i addressStr module name found
    exact absurd found (parts addressStr module name)
  · rfl

theorem vector_shaped (element : Str) : VectorShaped (str "vector<" ++ (element ++ [cp '>'])) :=
  ⟨⟨element ++ [cp '>'], rfl⟩, ⟨str "vector<" ++ element, by rw [List.append_assoc]; rfl⟩⟩

theorem vector_inner (element : Str) : slice (str "vector<" ++ (element ++ [cp '>'])) 7 (-1) = element := by
  have cut := slice_drop_last (str "vector<" ++ (element ++ [cp '>'])) 7
  push_cast at cut
  rw [cut, ← List.append_assoc, List.dropLast_concat]
  rfl

theorem vector_of_shaped (text : Str) (shaped : VectorShaped text) :
    text = str "vector<" ++ (slice text 7 (-1) ++ [cp '>']) := by
  obtain ⟨⟨tail, rfl⟩, ⟨front, frontEq⟩⟩ := shaped
  have nonempty : tail ≠ [] := by
    rintro rfl
    have last := congrArg List.getLast? frontEq
    rw [List.append_nil, show str ">" = [cp '>'] from rfl, List.getLast?_concat] at last
    exact absurd last (by decide)
  obtain ⟨inner, c, rfl⟩ : ∃ inner c, tail = inner ++ [c] :=
    ⟨tail.dropLast, tail.getLast nonempty, (List.dropLast_append_getLast nonempty).symm⟩
  have close : c = cp '>' := by
    have last := congrArg List.getLast? frontEq
    rw [show str ">" = [cp '>'] from rfl, List.getLast?_concat, ← List.append_assoc, List.getLast?_concat] at last
    exact (Option.some.inj last).symm
  rw [close, vector_inner]

theorem length_vector_inner_lt (text : Str) (shaped : VectorShaped text) :
    (slice text 7 (-1)).length < text.length := by
  have lengths := congrArg List.length (vector_of_shaped text shaped)
  simp only [List.length_append, List.length_cons, List.length_nil] at lengths
  omega

theorem length_struct_params_lt (text param : Str) (member : param ∈ structParams text) :
    param.length < text.length := by
  unfold structParams at member
  split at member
  · rename_i present
    obtain ⟨piece, inPieces, rfl⟩ := List.mem_map.mp member
    have shorter := length_struct_type_params_str_lt text present
    have bound := length_split_type_params_le _ piece inPieces
    have stripped := length_strip_le piece
    omega
  · cases member

end PyIota
