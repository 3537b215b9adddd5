import AudioLibrary.Proofs.Credits.Stored
import AudioLibrary.Proofs.Query.TagPredicates

/-!
# Predicates about columns

What the predicates on columns of an album come to: the source of its files, its circle, its
credits, and the columns that are searched for a text.

The credit field is the longest expression of a statement, `creditField`; its value is the text
`Credits.creditText` of the field.
-/

namespace AudioLibrary.Predicate

open AudioLibrary.Relational

variable {s : Store} {scope : Scope} {album : Row}

/-! ## Comparing with a text -/

/-- Only a text is equal to it. -/
theorem same_text_iff {v : Value} {t : String} : v.same (.text t) = true ↔ v = .text t := by
  cases v with
  | text u => simp [same_text]
  | null | integer i | real x | blob b =>
      constructor
      · intro h
        exact absurd h Bool.false_ne_true
      · simp

theorem holds_equal_text_iff {v : Value} {t : String} :
    (equal v (.text t)).holds = true ↔ v = .text t := by
  unfold equal
  cases v with
  | null => simp [Value.isNull]
  | integer i | real x | text u | blob b =>
      rw [if_neg (by simp [Value.isNull]), Truth.holds_some, same_text_iff]

theorem holds_differs_text_iff {v : Value} {t : String} :
    (equal v (.text t)).not.holds = true ↔ v ≠ .null ∧ v ≠ .text t := by
  unfold equal
  cases v with
  | null => simp [Value.isNull, Truth.not]
  | integer i | real x | text u | blob b =>
      rw [if_neg (by simp [Value.isNull]), Truth.holds_not_some, Bool.not_eq_true',
        ← Bool.not_eq_true, same_text_iff]
      simp

/-! ## Sources -/

/-- Whether a path is there; an empty one is not. -/
def IsPath (v : Value) : Prop := v ≠ .null ∧ v ≠ .text ""

/-- Whether the files of an album are where they must be. -/
def HasSource (album : Row) : SourceFilter → Prop
  | .localOnly => IsPath (album.value "local_path") ∧ ¬ IsPath (album.value "download_path")
  | .downloadOnly => IsPath (album.value "download_path") ∧ ¬ IsPath (album.value "local_path")
  | .localAndDownload => IsPath (album.value "local_path") ∧ IsPath (album.value "download_path")
  | .both => True

/-- The test for a path, as a condition of any statement. -/
theorem holds_filled_iff {ρ : Type} {sub : ρ → Scope → List Value} {path : Expr} :
    ((Condition.both (.isNotNull path) (.differs path (.literal ""))).eval sub scope).holds =
      true ↔ IsPath (path.eval scope) := by
  unfold Condition.eval Condition.eval
  rw [Truth.holds_and, Bool.and_eq_true, Expr.eval, holds_differs_text_iff, Truth.holds_some]
  unfold IsPath
  cases path.eval scope <;> simp [Value.isNull]

theorem holds_present_iff {path : Expr} :
    (Test.eval s.tables scope (present path)).holds = true ↔ IsPath (path.eval scope) :=
  holds_filled_iff

theorem holds_absent_iff {path : Expr} :
    (Test.eval s.tables scope (absent path)).holds = true ↔ ¬ IsPath (path.eval scope) := by
  unfold Test.eval absent
  rw [Condition.holds_anyOf_iff]
  simp only [List.mem_cons, List.not_mem_nil, or_false, exists_eq_or_imp, exists_eq_left,
    Condition.eval, Expr.eval, holds_equal_text_iff, Truth.holds_some]
  unfold IsPath
  cases path.eval scope <;> simp [Value.isNull]

theorem holds_fromSource_iff (hlookup : scope.lookup "a" = some album) (source : SourceFilter) :
    (fromSource source).Holds s scope ↔ HasSource album source := by
  have hlocal : localPath.eval scope = album.value "local_path" := by
    rw [localPath, eval_col, hlookup, Option.getD_some]
  have hdownload : downloadPath.eval scope = album.value "download_path" := by
    rw [downloadPath, eval_col, hlookup, Option.getD_some]
  have hpresent : ∀ path, (Condition.eval (Subselect.values s.tables) scope (present path)).holds =
      true ↔ IsPath (path.eval scope) := fun path => holds_present_iff
  have habsent : ∀ path, (Condition.eval (Subselect.values s.tables) scope (absent path)).holds =
      true ↔ ¬ IsPath (path.eval scope) := fun path => holds_absent_iff
  have hcondition : (fromSource source).condition = sourceCondition source := rfl
  unfold Holds Test.eval
  rw [hcondition]
  cases source with
  | both => simp [sourceCondition, HasSource, Condition.eval, Expr.eval]
  | localOnly | downloadOnly | localAndDownload =>
      rw [sourceCondition, Condition.holds_allOf_iff]
      simp only [List.mem_cons, List.not_mem_nil, or_false, forall_eq_or_imp, forall_eq, hpresent,
        habsent, hlocal, hdownload]
      rfl

/-! ## Circles -/

theorem holds_anyCircle_iff (hlookup : scope.lookup "a" = some album) (circles : List String) :
    (anyCircle circles).Holds s scope ↔
      ∃ circle ∈ circles, album.value "circle" = .text circle := by
  unfold Holds Test.eval condition Condition.eval
  rw [holds_member_iff, eval_col, hlookup, Option.getD_some]
  simp only [List.mem_map, exists_exists_and_eq_and, Argument.toValue, holds_equal_text_iff]

/-! ## Credits -/

theorem eval_replace {e old new : Expr} {text oldText newText : List Char}
    (he : e.eval scope = .text (String.ofList text))
    (hold : old.eval scope = .text (String.ofList oldText))
    (hnew : new.eval scope = .text (String.ofList newText)) :
    (Expr.replace e old new).eval scope =
      .text (String.ofList (replaceAll oldText newText text)) := by
  rw [Expr.eval, he, hold, hnew]
  simp [Expr.onTexts, Value.chars?]

theorem eval_concat {l r : Expr} {left right : List Char}
    (hl : l.eval scope = .text (String.ofList left))
    (hr : r.eval scope = .text (String.ofList right)) :
    (Expr.concat l r).eval scope = .text (String.ofList (left ++ right)) := by
  rw [Expr.eval, hl, hr]
  simp [Expr.onTexts, Value.chars?]

theorem eval_lower {e : Expr} {text : List Char} (he : e.eval scope = .text (String.ofList text)) :
    (Expr.lower e).eval scope = .text (String.ofList (Text.foldCase text)) := by
  rw [Expr.eval, he]
  simp [Expr.onTexts, Value.chars?]

/-- Dropping blanks one after the other drops all of them. -/
theorem eval_foldl_replace {blanks : List (Expr × Char)}
    (hblanks : ∀ b ∈ blanks, b.1.eval scope = .text (String.ofList [b.2])) {e : Expr}
    {text : List Char} (he : e.eval scope = .text (String.ofList text)) :
    ((blanks.map Prod.fst).foldl (fun e blank => .replace e blank (.literal "")) e).eval scope =
      .text (String.ofList (text.filter fun c => !(blanks.map Prod.snd).contains c)) := by
  induction blanks generalizing e text with
  | nil => simpa using he
  | cons b blanks ih =>
      have hstep := eval_replace he (hblanks b (List.mem_cons_self ..))
        (show (Expr.literal "").eval scope = .text (String.ofList []) from rfl)
      rw [replaceAll_singleton_nil] at hstep
      rw [List.map_cons, List.foldl_cons,
        ih (fun b' hb' => hblanks b' (List.mem_cons_of_mem _ hb')) hstep, List.filter_filter]
      congr 3
      funext c
      by_cases hc : c = b.2 <;> simp [hc]

/-- **The value of the credit field.**  Nothing counts as the empty text. -/
theorem eval_creditField_of_ifNull {field : Expr} {text : String}
    (hfield : (Expr.ifNull field (.literal "")).eval scope = .text text) :
    (creditField field).eval scope =
      .text (String.ofList (Credits.creditText text.toList)) := by
  -- the stripped characters with the expressions that stand for them
  let blanks := strippedExprs.zip Credits.strippedChars
  have hblanks : ∀ b ∈ blanks, b.1.eval scope = .text (String.ofList [b.2]) := by
    intro b hb
    simp only [blanks, strippedExprs, Credits.strippedChars, List.map_cons, List.map_nil,
      List.zip_cons_cons, List.zip_nil_left, List.mem_cons, List.not_mem_nil, or_false] at hb
    rcases hb with rfl | rfl | rfl | rfl | rfl | rfl <;> rfl
  have hwide : (Expr.literal (String.singleton Credits.wideSeparator)).eval scope =
      .text (String.ofList [Credits.wideSeparator]) := rfl
  have hcomma : (Expr.literal (String.singleton Credits.separator)).eval scope =
      .text (String.ofList [Credits.separator]) := rfl
  have hpair : (Expr.literal ",,").eval scope =
      .text (String.ofList [Credits.separator, Credits.separator]) := rfl
  have hplain : (Expr.replace (.ifNull field (.literal ""))
      (.literal (String.singleton Credits.wideSeparator))
      (.literal (String.singleton Credits.separator))).eval scope =
        .text (String.ofList (text.toList.map Credits.narrow)) := by
    rw [← String.ofList_toList (s := text)] at hfield
    rw [eval_replace hfield hwide hcomma, replaceAll_singleton_singleton]
    rfl
  have hexprs : blanks.map Prod.fst = strippedExprs := rfl
  have hdense := eval_foldl_replace hblanks hplain
  rw [hexprs] at hdense
  have hsingle := eval_replace hdense hpair hcomma
  -- the statement drops blanks after narrowing, the field before; narrowing makes no blanks
  have hswap : (text.toList.map Credits.narrow).filter
      (fun c => !(blanks.map Prod.snd).contains c) =
        (text.toList.filter fun c => !Credits.isStripped c).map Credits.narrow := by
    rw [List.filter_map]
    congr 1
    refine List.filter_congr fun c _ => ?_
    show (!Credits.isStripped (Credits.narrow c)) = !Credits.isStripped c
    rw [Credits.isStripped_narrow]
  rw [hswap] at hsingle
  have hwhole := eval_concat (eval_concat hcomma (eval_lower hsingle)) hcomma
  exact hwhole

theorem eval_creditField {field : Expr} {text : String} (hfield : field.eval scope = .text text) :
    (creditField field).eval scope =
      .text (String.ofList (Credits.creditText text.toList)) := by
  refine eval_creditField_of_ifNull ?_
  rw [Expr.eval, hfield]
  rfl

/-- The alternative for a key. -/
def creditsLike (key : String) : Test :=
  .like (creditField (.col "a" "cv")) (.argument (listing key))

theorem condition_anyActor (key : String) (others : List String) :
    (anyActor key others).condition = .anyOf (creditsLike key) (others.map creditsLike) := rfl

/-- Some key is like the value that the store makes of the field, whatever that is. -/
theorem holds_anyActor_iff_like {key : String} {others : List String} :
    (anyActor key others).Holds s scope ↔
      ∃ k ∈ key :: others, (Condition.likeTruth ((creditField (.col "a" "cv")).eval scope)
        (listing k).toValue).holds = true := by
  unfold Holds Test.eval
  rw [condition_anyActor, Condition.holds_anyOf_iff, ← List.map_cons]
  simp only [List.mem_map, exists_exists_and_eq_and, creditsLike, Condition.eval, Expr.eval]

/-! ## Searching for a text -/

/-- A plain text is like the pattern for a word exactly if the word is found in it. -/
theorem holds_containing_iff {v : Value} (hv : Store.IsPlainText v) (word : String) :
    (Condition.likeTruth v (containing word).toValue).holds = true ↔
      ∃ text, v = .text text ∧ Found word.toList text.toList := by
  obtain ⟨text, rfl, hnul⟩ := hv
  show (Condition.likeTruth (.text text) (.text _)).holds = true ↔ _
  rw [holds_likeTruth_text, String.toList_ofList, like_containing hnul]
  simp

/-- One of the columns or the name of a tag is like the pattern for a word. -/
theorem holds_textMatch_iff_like {tags : TagScope} (word : String) (columns : List Expr) :
    (textMatch word columns tags).Holds s scope ↔
      (∃ column ∈ columns, (Condition.likeTruth (column.eval scope)
        (containing word).toValue).holds = true) ∨
      (Test.eval s.tables scope (taggedLike tags (containing word))).holds = true := by
  unfold Holds Test.eval
  cases columns with
  | nil =>
      have hcondition : (textMatch word [] tags).condition =
          .group (taggedLike tags (containing word)) := rfl
      rw [hcondition, Condition.eval]
      simp
  | cons first others =>
      have hcondition : (textMatch word (first :: others) tags).condition =
          .anyOf (.like first (.argument (containing word)))
            ((others.map fun column => .like column (.argument (containing word))) ++
              [taggedLike tags (containing word)]) := rfl
      rw [hcondition, Condition.holds_anyOf_iff, ← List.cons_append,
        ← List.map_cons (f := fun column =>
          (Condition.like column (.argument (containing word)) : Test))]
      simp only [List.mem_append, List.mem_map, List.mem_singleton, or_and_right, exists_or,
        exists_exists_and_eq_and, exists_eq_left, Condition.eval, Expr.eval]

end AudioLibrary.Predicate
