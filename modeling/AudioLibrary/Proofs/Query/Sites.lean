import AudioLibrary.Proofs.Relational.Placeholder

/-!
# Sites of placeholders

What a placeholder of a library query stands for can be told from the text in front of it.  A
`Site` is such a meaning, and its `heads` are the texts that announce it, down to the placeholder
or to the list of placeholders that it is a member of.

No head ends in a head of another site, `eq_of_heads`, so that `Site.of?` finds the one site of a
placeholder whatever stands in front of its head.  `Binds` says of rendered text at which sites its
placeholders stand and with which arguments, wherever the text is put; it is closed under writing
texts one after the other.
-/

namespace AudioLibrary

open AudioLibrary.Relational

/-! ## Sites -/

/-- What a placeholder stands for. -/
inductive Site where
  /-- The album that tracks are restricted to. -/
  | scope
  /-- What a column or the name of a tag is like. -/
  | operand
  /-- One of the tags that must be there. -/
  | included
  /-- How many tags must be there. -/
  | size
  /-- One of the tags that must not be there. -/
  | excluded
  /-- What the normal form of the credits is like. -/
  | actor
  /-- One of the circles. -/
  | circle
  | limit
  | offset
deriving DecidableEq, Repr

namespace Site

def all : List Site :=
  [scope, operand, included, size, excluded, actor, circle, limit, offset]

/-- How tags are looked up for albums and for tracks: the item, its column, and the pairs. -/
def tagRelations : List (String × String × List String) :=
  [("a.id", "album_id", ["album_tag"]),
    ("t.id", "item_id",
      ["(SELECT track_id AS item_id, ", "tag_id FROM track_tag", " UNION ALL ",
        "SELECT t2.id AS item_id, ", "at2.tag_id AS tag_id ", "FROM tracks t2 ",
        "JOIN album_tag at2 ", "ON at2.album_id = t2.album_id)"])]

/-- A text in parts, read backwards. -/
def backwards (parts : List String) : List Char := (parts.flatMap String.toList).reverse

/-- The texts that announce a site, read backwards. -/
def heads : Site → List (List Char)
  | scope => [backwards ["t.album_id = "]]
  | operand =>
      ["a.title", "a.circle", "a.cv", "a.rj_code", "a.work_id", "t.title", "tg.name"].map
        fun column => backwards [column, " LIKE "]
  | included => tagRelations.map fun (subject, item, relation) =>
      backwards ([subject, " IN (SELECT et.", item, " FROM "] ++ relation ++
        [" et WHERE ", "et.tag_id IN ("])
  | size => [backwards ["COUNT(DISTINCT et.tag_id) = "]]
  | excluded => tagRelations.map fun (subject, item, relation) =>
      backwards ([subject, " NOT IN (SELECT et.", item, " FROM "] ++ relation ++
        [" et WHERE ", "et.tag_id IN ("])
  | actor => [backwards [" || ',') LIKE "]]
  | circle => [backwards ["a.circle IN ("]]
  | limit => [backwards [" LIMIT "]]
  | offset => [backwards [" OFFSET "]]

/-- A text read backwards, without the placeholders of a list that end it. -/
def beforeList : List Char → List Char
  | ' ' :: ',' :: '?' :: before => beforeList before
  | before => before

/-- The site of a placeholder by the text before it, read backwards. -/
def of? (before : List Char) : Option Site :=
  all.find? fun site => site.heads.any fun head => head.isPrefixOf (beforeList before)

/-! ## Heads -/

theorem mem_all (site : Site) : site ∈ all := by
  cases site <;> decide

theorem heads_apart :
    (all.all fun s => s.heads.all fun head => all.all fun t => t.heads.all fun other =>
      decide (s = t) || !head.isPrefixOf other) = true := by
  decide +kernel

/-- **No head ends in a head of another site.** -/
theorem eq_of_heads {s t : Site} {head other : List Char} (hhead : head ∈ s.heads)
    (hother : other ∈ t.heads) (h : head <+: other) : s = t := by
  have hs := List.all_eq_true.mp heads_apart s s.mem_all
  have hst := List.all_eq_true.mp (List.all_eq_true.mp hs head hhead) t t.mem_all
  have hboth := List.all_eq_true.mp hst other hother
  rw [List.isPrefixOf_iff_prefix.mpr h] at hboth
  simpa using hboth

theorem heads_end :
    (all.all fun s => s.heads.all fun head =>
      decide (3 ≤ head.length) &&
        !List.isPrefixOf [' ', ',', '?'] head) = true := by
  decide +kernel

/-- No head ends in a placeholder of a list. -/
theorem beforeList_head {s : Site} {head : List Char} (hhead : head ∈ s.heads)
    (before : List Char) :
    beforeList (head ++ before) = head ++ before := by
  have hend := List.all_eq_true.mp (List.all_eq_true.mp heads_end s s.mem_all) head hhead
  obtain ⟨hlength, hlisted⟩ := Bool.and_eq_true_iff.mp hend
  unfold beforeList
  split
  · next rest heq =>
      have hlist : [' ', ',', '?'] <+: head ++ before := ⟨rest, heq.symm⟩
      have hhead := List.prefix_of_prefix_length_le hlist (List.prefix_append _ before)
        (of_decide_eq_true hlength)
      rw [List.isPrefixOf_iff_prefix.mpr hhead] at hlisted
      exact absurd hlisted Bool.false_ne_true
  · rfl

/-- **The site of a placeholder is the one that its head announces.** -/
theorem of?_head {site : Site} {head : List Char} (hhead : head ∈ site.heads) (before : List Char) :
    of? (head ++ before) = some site := by
  have hself : site.heads.any (fun head' => head'.isPrefixOf
      (head ++ before)) = true :=
    List.any_eq_true.mpr ⟨head, hhead, List.isPrefixOf_iff_prefix.mpr (List.prefix_append _ _)⟩
  unfold of?
  rw [beforeList_head hhead]
  cases hfind : all.find? fun t => t.heads.any fun head' =>
      head'.isPrefixOf (head ++ before) with
  | none => exact absurd hself (List.find?_eq_none.mp hfind site site.mem_all)
  | some t =>
      have hfound := List.find?_some hfind
      obtain ⟨other, hother, hends⟩ := List.any_eq_true.mp hfound
      -- what is found has a head that ends the same text, so one of the heads ends the other
      have hcommon := List.prefix_or_prefix_of_prefix (List.isPrefixOf_iff_prefix.mp hends)
        (List.prefix_append head before)
      rcases hcommon with h | h
      · rw [eq_of_heads hother hhead h]
      · rw [eq_of_heads hhead hother h]

end Site

/-- The sites of a statement's placeholders, read off its text. -/
def sites (sql : String) : List (Option Site) := (textsBefore false [] sql.toList).map Site.of?

example : sites "SELECT '?' FROM albums a WHERE a.circle IN (?, ?) LIMIT ?" =
    [some .circle, some .circle, some .limit] := by
  decide +kernel

/-! ## Rendered text at its sites -/

/-- The placeholders of rendered text stand at these sites and have these arguments, whatever the
text is put behind. -/
structure Binds (r : Rendered) (bound : List (Site × Argument)) : Prop where
  closed : r.isClosed = true
  slots : ∀ before, (r.slots before).map (Prod.map Site.of? id) = bound.map (Prod.map some id)

namespace Binds

variable {r s : Rendered} {bound others : List (Site × Argument)} {site : Site}

theorem sites_sql (h : Binds r bound) : sites r.sql = bound.map fun b => some b.1 := by
  have hfirst := congrArg (List.map Prod.fst) (h.slots [])
  rw [List.map_map, List.map_map] at hfirst
  rw [sites, Rendered.textsBefore_sql h.closed, List.map_map]
  exact hfirst

theorem arguments (h : Binds r bound) : r.arguments = bound.map Prod.snd := by
  have hsecond := congrArg (List.map Prod.snd) (h.slots [])
  rw [List.map_map, List.map_map] at hsecond
  rw [← Rendered.map_snd_slots r []]
  exact hsecond

/-- Text without slots binds nothing. -/
theorem fixed (hclosed : r.isClosed = true) (hfixed : r.isFixed = true) : Binds r [] := by
  refine ⟨hclosed, fun before => ?_⟩
  rw [Rendered.slots_of_isFixed hfixed]
  rfl

theorem append (hr : Binds r bound) (hs : Binds s others) : Binds (r ++ s) (bound ++ others) := by
  refine ⟨?_, fun before => ?_⟩
  · rw [Rendered.isClosed_append, hr.closed, hs.closed]
    rfl
  · rw [Rendered.slots_append, List.map_append, List.map_append, hr.slots, hs.slots]

theorem cons_text {text : String} (htext : isClosedFrom false text.toList = true)
    (hr : Binds r bound) : Binds (.text text :: r) bound :=
  ⟨by rw [Rendered.isClosed_text, htext, hr.closed]; rfl, fun _ => hr.slots _⟩

theorem parens (hr : Binds r bound) : Binds r.parens bound := by
  have hend : Binds [.text ")"] [] := fixed rfl rfl
  exact bound.append_nil ▸ cons_text rfl (hr.append hend)

theorem joined {α : Type} (separator : String)
    (hseparator : isClosedFrom false separator.toList = true) {render : α → Rendered}
    {bound : α → List (Site × Argument)} {items : List α}
    (h : ∀ item ∈ items, Binds (render item) (bound item)) :
    Binds (Rendered.joined separator (items.map render)) (items.flatMap bound) := by
  induction items with
  | nil => exact fixed rfl rfl
  | cons item items ih =>
      have hitem := h item List.mem_cons_self
      cases items with
      | nil => rwa [List.flatMap_singleton]
      | cons next items =>
          have hrest := ih fun other hother => h other (List.mem_cons_of_mem item hother)
          rw [List.flatMap_cons]
          exact hitem.append (cons_text hseparator hrest)

/-! ### Behind a head -/

/-- Whether text without slots ends in a head of a site. -/
def announces (site : Site) (r : Rendered) : Bool :=
  r.isFixed && site.heads.any fun head => head.isPrefixOf r.chars.reverse

theorem of_announces (h : announces site r = true) :
    r.isFixed = true ∧ ∀ before, Site.of? (r.chars.reverse ++ before) = some site := by
  obtain ⟨hfixed, hhead⟩ := Bool.and_eq_true_iff.mp h
  obtain ⟨head, hmem, hends⟩ := List.any_eq_true.mp hhead
  obtain ⟨start, hstart⟩ := List.isPrefixOf_iff_prefix.mp hends
  refine ⟨hfixed, fun before => ?_⟩
  rw [← hstart, List.append_assoc]
  exact Site.of?_head hmem _

theorem slot (site : Site) (hclosed : r.isClosed = true) (h : announces site r = true)
    (a : Argument) :
    Binds (r ++ [.slot a]) [(site, a)] := by
  obtain ⟨hfixed, hsite⟩ := of_announces h
  refine ⟨by simp [hclosed], fun before => ?_⟩
  rw [Rendered.slots_append, Rendered.slots_of_isFixed hfixed]
  simp [Rendered.slots, hsite]

theorem isClosed_slots (choices : List Argument) :
    Rendered.isClosed (.joined ", " (choices.map fun a => [.slot a])) = true := by
  induction choices with
  | nil => rfl
  | cons a choices ih =>
      cases choices with
      | nil => rfl
      | cons b choices => exact ih

/-- The members of a list have the site of its first one. -/
theorem slots_joined (choices : List Argument) {before : List Char}
    (h : Site.of? before = some site) :
    (Rendered.slots before (.joined ", " (choices.map fun a => [.slot a]))).map
        (Prod.map Site.of? id) =
      choices.map fun a => (some site, a) := by
  induction choices generalizing before with
  | nil => rfl
  | cons a choices ih =>
      cases choices with
      | nil => simp [Rendered.joined, Rendered.slots, h]
      | cons b choices =>
          have hnext : Site.of? (' ' :: ',' :: '?' :: before) = some site := h
          exact List.cons_eq_cons.mpr ⟨Prod.ext h rfl, ih hnext⟩

theorem listed (site : Site) (hclosed : r.isClosed = true) (h : announces site r = true)
    (choices : List Argument) :
    Binds (r ++ .joined ", " (choices.map fun a => [.slot a])) (choices.map (site, ·)) := by
  obtain ⟨hfixed, hsite⟩ := of_announces h
  refine ⟨by rw [Rendered.isClosed_append, hclosed, isClosed_slots]; rfl, fun before => ?_⟩
  rw [Rendered.slots_append, Rendered.slots_of_isFixed hfixed, List.nil_append,
    slots_joined choices (hsite before), List.map_map]
  rfl

end Binds

end AudioLibrary
