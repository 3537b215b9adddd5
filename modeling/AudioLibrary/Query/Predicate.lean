import AudioLibrary.Catalog.Id
import AudioLibrary.Credits
import AudioLibrary.Filter.Spec
import AudioLibrary.Relational.Select

/-!
# Predicates of library queries

What a filter asks of a row, one predicate for each part of the filter, and the condition of a
statement that says so.  In the conditions `a` is the album of a row, `t` its track, `et` a tag
that an item carries and `tg` the tag itself.
-/

namespace AudioLibrary

open AudioLibrary.Relational

/-! ## Tags that count -/

/-- Whose tags count. -/
inductive TagScope where
  /-- The tags of the album. -/
  | album
  /-- The tags of the track and those of its album. -/
  | track
deriving DecidableEq, Repr

namespace TagScope

/-- The number of the item that carries the tags. -/
def subject : TagScope → Expr
  | album => .col "a" "id"
  | track => .col "t" "id"

/-- The column that holds the item's number. -/
def itemColumn : TagScope → String
  | album => "album_id"
  | track => "item_id"

/-- The tags of tracks together with those of their albums. -/
def effectiveTags : Union :=
  [{ columns := [⟨.column none "track_id", some "item_id"⟩, ⟨.column none "tag_id", none⟩]
     source := .ofTable "track_tag" },
   { columns := [⟨.col "t2" "id", some "item_id"⟩, ⟨.col "at2" "tag_id", some "tag_id"⟩]
     source :=
       { relation := .table ⟨"tracks", some "t2"⟩
         joins := [{ table := ⟨"album_tag", some "at2"⟩
                     on := .equals (.col "at2" "album_id") (.col "t2" "album_id") }] } }]

/-- The pairs of items and tags, under the name `et`. -/
def relation : TagScope → Relation Union
  | album => .table ⟨"album_tag", some "et"⟩
  | track => .derived effectiveTags "et"

/-- The item of a pair. -/
def item (scope : TagScope) : Expr := .col "et" scope.itemColumn

end TagScope

/-! ## Credits -/

/-- The blanks that normalization drops, as expressions. -/
def strippedExprs : List Expr :=
  Credits.strippedChars.map fun c =>
    if c.toNat < 32 then .char c.toNat else .literal (String.singleton c)

/-- The normal form of a credit field.  Runs of separators shrink in one pass only. -/
def creditField (field : Expr) : Expr :=
  let plain := Expr.replace (.ifNull field (.literal ""))
    (.literal (String.singleton Credits.wideSeparator))
    (.literal (String.singleton Credits.separator))
  let dense := strippedExprs.foldl (fun e blank => .replace e blank (.literal "")) plain
  let single := Expr.replace dense (.literal ",,") (.literal ",")
  .group (.concat (.concat (.literal ",") (.lower single)) (.literal ","))

/-! ## Predicates -/

inductive Predicate where
  /-- The track belongs to an album. -/
  | ofAlbum (id : AlbumId)
  /-- A text stands in one of the columns or in the name of a tag. -/
  | textMatch (text : String) (columns : List Expr) (tags : TagScope)
  /-- All tags are there. -/
  | allTags (tags : TagScope) (ids : List TagId)
  /-- None of the tags is there. -/
  | noTag (tags : TagScope) (ids : List TagId)
  /-- One of the keys is among the credits. -/
  | anyActor (key : String) (others : List String)
  /-- The circle is one of these. -/
  | anyCircle (circles : List String)
  /-- The files are where they must be. -/
  | fromSource (source : SourceFilter)
deriving DecidableEq

namespace Predicate

/-- The tags among others. -/
def tagIn (ids : List TagId) : Plain :=
  .among (.col "et" "tag_id") (ids.map fun id => .integer id.value)

/-- A pattern that finds a text anywhere. -/
def containing (text : String) : Argument :=
  .text (String.ofList ('%' :: Relational.escape text.toList ++ ['%']))

/-- A pattern that finds a key among the keys of a normal form. -/
def listing (key : String) : Argument :=
  .text (String.ofList (['%', ','] ++ Relational.escape key.toList ++ [',', '%']))

/-- A tag's name is like a pattern. -/
def taggedLike (tags : TagScope) (pattern : Argument) : Test :=
  .nonempty
    { item := .number 1
      source :=
        { relation := tags.relation
          joins := [{ table := ⟨"tags", some "tg"⟩
                      on := .equals (.col "tg" "id") (.col "et" "tag_id") }] }
      conditions :=
        [.equals tags.item tags.subject, .like (.col "tg" "name") (.argument pattern)] }

/-- A path is there; an empty one is not. -/
def present (path : Expr) : Test := .both (.isNotNull path) (.differs path (.literal ""))

/-- A path is missing or empty. -/
def absent (path : Expr) : Test := .anyOf (.isNull path) [.equals path (.literal "")]

def localPath : Expr := .col "a" "local_path"

def downloadPath : Expr := .col "a" "download_path"

/-- Where the files of an album are. -/
def sourceCondition : SourceFilter → Test
  | .localOnly => .allOf (present localPath) [absent downloadPath]
  | .downloadOnly => .allOf (present downloadPath) [absent localPath]
  | .localAndDownload => .allOf (present localPath) [present downloadPath]
  | .both => .equals (.number 1) (.number 1)

/-- The condition of a statement. -/
def condition : Predicate → Test
  | ofAlbum id => .equals (.col "t" "album_id") (.argument (.integer id.value))
  | textMatch text columns tags =>
      match columns with
      | [] => .group (taggedLike tags (containing text))
      | first :: others =>
          .anyOf (.like first (.argument (containing text)))
            ((others.map fun column => .like column (.argument (containing text))) ++
              [taggedLike tags (containing text)])
  | allTags tags ids =>
      .within tags.subject
        { item := tags.item
          source := { relation := tags.relation }
          conditions := [tagIn ids]
          grouping := some ⟨tags.item, .col "et" "tag_id", .integer (.ofNat ids.length)⟩ }
  | noTag tags ids =>
      .outside tags.subject
        { item := tags.item, source := { relation := tags.relation }, conditions := [tagIn ids] }
  | anyActor key others =>
      .anyOf (.like (creditField (.col "a" "cv")) (.argument (listing key)))
        (others.map fun key => .like (creditField (.col "a" "cv")) (.argument (listing key)))
  | anyCircle circles => .among (.col "a" "circle") (circles.map .text)
  | fromSource source => sourceCondition source

end Predicate

end AudioLibrary
