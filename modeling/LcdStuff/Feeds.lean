import LcdStuff.Rss

/-!
# The feeds of the RSS module

`rss_check` throws away the headlines that it has and makes a new list of them, feed by feed. A
feed that cannot be read is left out, and of the others as many items are taken as the
configuration says. What the library that reads the feeds answers, and what can be converted to
the encoding of the display, is a parameter, `Mrss`; allocations succeed.
-/

/-- `mrss_t`, as far as it is looked at; `NULL` is `none`. -/
structure MrssData where
  /-- `encoding` -/
  encoding : Option Str
  /-- The `title` of each `item` -/
  items : List (Option Str)
  deriving DecidableEq, Repr

/-- **What is read from outside.** -/
structure Mrss where
  /-- `mrss_parse_url` for the feed at a place, `none` where it fails. -/
  parseUrl : ℕ → Option MrssData
  /-- `g_convert` of a title from an encoding to `ISO-8859-1`, `none` where it fails. -/
  gConvert : Option Str → Option Str → Option Str

namespace LcdStuffRss

variable (mrss : Mrss) (rss : LcdStuffRss)

/-! ## The functions of `rss.c` -/

/-- `free_news` -/
def freeNews : LcdStuffRss := { rss with news := [] }

/-- The headline that is made of an item. -/
def newsitem (feed : RssFeed) (encoding title : Option Str) : Newsitem :=
  ⟨feed.name, (mrss.gConvert title encoding).getD []⟩

/-- The loop over the items of a feed, from the value of `i` on. -/
def readItems (feed : RssFeed) (encoding : Option Str) :
    List (Option Str) → Int → List Newsitem → List Newsitem
  | [], _, news => news
  | title :: itemCur, i, news =>
    if i < feed.items then
      readItems feed encoding itemCur (i + 1) (news ++ [newsitem mrss feed encoding title])
    else news

/-- A round of the loop over the feeds: the list and the commands behind it. -/
def checkFeed (s : List Newsitem × List Command) (p : RssFeed × ℕ) :
    List Newsitem × List Command :=
  let cmds := s.2 ++ rss.updateScreenReceiving p.1.name
  match mrss.parseUrl p.2 with
  | none => (s.1, cmds)
  | some dataCur => (readItems mrss p.1 dataCur.encoding dataCur.items 0 s.1, cmds)

/-- `rss_check`: what it leaves in the module, and the commands it queues. -/
def check : LcdStuffRss × List Command :=
  let rss := freeNews { rss with currentScreen := 0 }
  let s := rss.feeds.zipIdx.foldl (checkFeed mrss rss) (rss.news, [])
  ({ rss with news := s.1 }, s.2)

/-! ## The headlines of a check -/

/-- **The headlines of a feed**: the titles of the first of its items, as many as are to be shown,
converted for the display, under the name of the feed. A title that cannot be converted is empty. -/
def feedNews (p : RssFeed × ℕ) : List Newsitem :=
  match mrss.parseUrl p.2 with
  | none => []
  | some dataCur =>
    (dataCur.items.take (min (max p.1.items 0) dataCur.items.length).toNat).map
      (fun title => ⟨p.1.name, (mrss.gConvert title dataCur.encoding).getD []⟩)

/-- **The loop over the items** appends those that the number of rounds allows. -/
theorem readItems_eq (feed : RssFeed) (encoding : Option Str) (items : List (Option Str))
    (i : Int) (news : List Newsitem) :
    readItems mrss feed encoding items i news
      = news ++ (items.take (min (max (feed.items - i) 0) items.length).toNat).map
        (newsitem mrss feed encoding) := by
  induction items generalizing i news with
  | nil =>
    rw [List.take_nil, List.map_nil, List.append_nil]
    rfl
  | cons title items ih =>
    rw [readItems, List.length_cons]
    split
    · next hlt =>
      have hcount : (min (max (feed.items - i) 0) (items.length + 1 : ℕ)).toNat
          = (min (max (feed.items - (i + 1)) 0) items.length).toNat + 1 := by omega
      rw [ih, hcount, List.take_succ_cons, List.map_cons, List.append_assoc]
      rfl
    · next hge =>
      have hcount : (min (max (feed.items - i) 0) (items.length + 1 : ℕ)).toNat = 0 := by omega
      rw [hcount, List.take_zero, List.map_nil, List.append_nil]

/-- A round of the loop over the feeds appends the headlines of the feed. -/
theorem fst_checkFeed (s : List Newsitem × List Command) (p : RssFeed × ℕ) :
    (rss.checkFeed mrss s p).1 = s.1 ++ feedNews mrss p := by
  unfold checkFeed feedNews
  cases mrss.parseUrl p.2 with
  | none => exact (List.append_nil s.1).symm
  | some dataCur =>
    show readItems mrss p.1 dataCur.encoding dataCur.items 0 s.1 = _
    rw [readItems_eq, Int.sub_zero]
    rfl

/-- **The headlines after a check** are those of the feeds, feed by feed, whatever the list was
before; and the first of them is to be shown. -/
theorem check_eq :
    (rss.check mrss).1 = { rss with
      currentScreen := 0
      news := rss.feeds.zipIdx.flatMap (feedNews mrss) } := by
  have hnews : (rss.check mrss).1.news = rss.feeds.zipIdx.flatMap (feedNews mrss) := by
    rw [List.flatMap_eq_foldl]
    exact (List.foldl_hom Prod.fst (fun s p => (fst_checkFeed mrss _ s p).symm)).symm
  exact congrArg (fun news => ({ rss with currentScreen := 0, news := news } : LcdStuffRss)) hnews

/-- A feed that is short, one that cannot be read, one of which nothing is to be shown, and one of
which the second title cannot be converted. -/
example :
    let mrss : Mrss := ⟨fun n => if n = 1 then none else
      some ⟨none, [some "a".toList, none, some "c".toList]⟩, fun title _ => title⟩
    let feed : Int → RssFeed := fun items => ⟨[], "feed".toList, items⟩
    (check mrss ⟨900, [feed 5, feed 5, feed (-1), feed 2], [⟨[], "old".toList⟩], 3,
      ⟨⟨⟨20, 4⟩, false⟩, "rss".toList⟩⟩).1.news.map Newsitem.headline
      = ["a".toList, [], "c".toList, "a".toList, []] := by
  decide +kernel

end LcdStuffRss
