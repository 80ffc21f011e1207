import LcdStuff.Mail
import LcdStuff.Numbered
import LcdStuff.Rss
import LcdStuff.WeatherDocument

/-!
# The settings of the modules

A module takes its settings from its group of the configuration file, with a default for each of
them that is missing or cannot be read. The mailboxes and the feeds are tables: the keys of a
mailbox have its number, and how many there are is a setting of its own.

What GLib makes of a value is a parameter (`GKeyFile`). The mailboxes that `mail_init` creates are
those of the file, in their order, if the file numbers them from one (`GKeyFile.mailInit_table`),
and so are the feeds (`GKeyFile.rssInit_table`). The documentation says that the numbers begin at
zero. A file that is written like that loses its first mailbox, and has a last one with nothing
but defaults. The unit of the weather is not read where the documentation has it, either
(`GKeyFile.weatherInit_insert_unit`).
-/

/-- **What GLib makes of a value** of the file, `none` where it is an error. -/
structure GKeyFile (ν : Type) where
  /-- `g_key_file_get_string` -/
  string : ν → Option Str
  /-- `g_key_file_get_integer` -/
  integer : ν → Option Int
  /-- `g_key_file_get_boolean` -/
  boolean : ν → Option Bool
  /-- `g_convert_with_fallback`, from UTF-8 to ISO-8859-1 -/
  toLatin1 : Str → Option Str

/-- A group of the file: the value of each of its keys. -/
abbrev SettingsGroup (ν : Type) := AList (fun _ : Str => ν)

/-! ## `keyfile.c` -/

namespace GKeyFile

variable {ν : Type} (file : GKeyFile ν) (group : SettingsGroup ν)

/-- `key_file_get_string_default`, for a default that is not `NULL` -/
def getStringDefault (key defaultValue : Str) : Str :=
  ((group.lookup key).bind file.string).getD defaultValue

/-- `key_file_get_string_default_l1` -/
def getStringDefaultL1 (key defaultValue : Str) : Str :=
  (file.toLatin1 (file.getStringDefault group key defaultValue)).getD defaultValue

/-- `key_file_get_integer_default` -/
def getIntegerDefault (key : Str) (defaultValue : Int) : Int :=
  ((group.lookup key).bind file.integer).getD defaultValue

/-- `key_file_get_boolean_default` -/
def getBooleanDefault (key : Str) (defaultValue : Bool) : Bool :=
  ((group.lookup key).bind file.boolean).getD defaultValue

end GKeyFile

/-! ## `mail_init` and `rss_init` -/

/-- What `mail_init` takes from the file. -/
structure MailSettings where
  /-- The name of the screen. -/
  screenName : Str
  /-- `title_prefix` -/
  titlePrefix : Str
  /-- `interval` -/
  interval : Int
  /-- `mailboxes` -/
  mailboxes : List Mailbox
  deriving DecidableEq, Repr

/-- What `rss_init` takes from the file. -/
structure RssSettings where
  /-- `interval` -/
  interval : Int
  /-- `feeds` -/
  feeds : List RssFeed
  deriving DecidableEq, Repr

namespace GKeyFile

variable {ν : Type} (file : GKeyFile ν) (group : SettingsGroup ν)

/-- A round of the loop of `mail_init`. -/
def initMailbox (i : ℕ) : Mailbox :=
  let server := file.getStringDefault group ("server".toList ++ decimal i) []
  { server := server
    username := file.getStringDefault group ("user".toList ++ decimal i) []
    type := file.getStringDefault group ("type".toList ++ decimal i) "pop3".toList
    password := file.getStringDefault group ("password".toList ++ decimal i) []
    mailboxName := file.getStringDefault group ("mailbox_name".toList ++ decimal i) "INBOX".toList
    hidden := file.getBooleanDefault group ("hidden".toList ++ decimal i) false
    name := file.getStringDefault group ("name".toList ++ decimal i) server
    messagesSeen := 0
    messagesUnseen := 0
    messagesTotal := 0 }

/-- **`mail_init`**, as far as the file goes: without a mailbox it fails. -/
def mailInit : Option MailSettings :=
  let numberOfMailboxes := file.getIntegerDefault group "number_of_servers".toList 0
  if numberOfMailboxes = 0 then none
  else some
    { screenName := file.getStringDefault group "name".toList "Mail".toList
      titlePrefix := file.getStringDefaultL1 group "name".toList "Mail".toList
      interval := file.getIntegerDefault group "interval".toList 300
      mailboxes :=
        (List.range numberOfMailboxes.toNat).map (fun i => file.initMailbox group (i + 1)) }

/-- A round of the loop of `rss_init`. -/
def initFeed (i : ℕ) : RssFeed where
  url := file.getStringDefault group ("url".toList ++ decimal i) []
  name := file.getStringDefaultL1 group ("name".toList ++ decimal i) []
  items := file.getIntegerDefault group ("items".toList ++ decimal i) 0

/-- **`rss_init`**, as far as the file goes: without a feed it fails. -/
def rssInit : Option RssSettings :=
  let numberOfFeeds := file.getIntegerDefault group "number_of_feeds".toList 0
  if numberOfFeeds = 0 then none
  else some
    { interval := file.getIntegerDefault group "interval".toList 1800
      feeds := (List.range numberOfFeeds.toNat).map (fun i => file.initFeed group (i + 1)) }

end GKeyFile

/-! ## `weather_init` -/

/-- `MAX_CITYCODE_LEN` -/
def maxCitycodeLen : ℕ := 10

/-- What `weather_init` takes from the file. -/
structure WeatherSettings where
  /-- The name of the screen. -/
  screenName : Str
  /-- The title of the screen. -/
  title : Str
  /-- `interval` -/
  interval : Int
  /-- The bytes of `city` -/
  city : Str
  /-- `unit` -/
  unit : WeatherUnit
  deriving DecidableEq, Repr

/-- `weather_init`, as far as the file goes. -/
def GKeyFile.weatherInit {ν : Type} (file : GKeyFile ν) (group : SettingsGroup ν) :
    WeatherSettings where
  screenName := file.getStringDefault group "name".toList "Mail".toList
  title := file.getStringDefaultL1 group "name".toList "Weather".toList
  interval := file.getIntegerDefault group "interval".toList 3600
  city := storeText maxCitycodeLen (file.getStringDefault group "citycode".toList [])
  unit := if file.getStringDefault group "units".toList "metric".toList = "imperial".toList
    then .imperial else .metric

/-- The setting that the documentation calls `unit` changes nothing. -/
theorem GKeyFile.weatherInit_insert_unit {ν : Type} (file : GKeyFile ν) (group : SettingsGroup ν)
    (value : ν) :
    file.weatherInit (group.insert "unit".toList value) = file.weatherInit group := by
  have hlookup : ∀ key, key ≠ "unit".toList →
      (group.insert "unit".toList value).lookup key = group.lookup key :=
    fun key hkey => AList.lookup_insert_ne hkey
  unfold weatherInit getStringDefaultL1 getStringDefault getIntegerDefault
  rw [hlookup _ (by decide), hlookup _ (by decide), hlookup _ (by decide),
    hlookup _ (by decide)]

/-! ## The tables of the file -/

/-- **What the file says of a mailbox**; a key that is not there is `none`. -/
structure MailboxRow (ν : Type) where
  /-- `server` -/
  server : Option ν
  /-- `user` -/
  user : Option ν
  /-- `type` -/
  type : Option ν
  /-- `password` -/
  password : Option ν
  /-- `mailbox_name` -/
  mailboxName : Option ν
  /-- `hidden` -/
  hidden : Option ν
  /-- `name` -/
  name : Option ν

/-- What the file says of a feed. -/
structure FeedRow (ν : Type) where
  /-- `url` -/
  url : Option ν
  /-- `name` -/
  name : Option ν
  /-- `items` -/
  items : Option ν

namespace MailboxRow

variable {ν : Type}

/-- A row without a key. -/
def empty : MailboxRow ν := ⟨none, none, none, none, none, none, none⟩

/-- The keys of a mailbox. -/
def keys : List Str :=
  ["server".toList, "user".toList, "type".toList, "password".toList, "mailbox_name".toList,
    "hidden".toList, "name".toList]

/-- The keys of a mailbox, with their values. -/
def schema : Numbered.Schema (MailboxRow ν) ν where
  columns := [⟨"server".toList, server⟩, ⟨"user".toList, user⟩, ⟨"type".toList, type⟩,
    ⟨"password".toList, password⟩, ⟨"mailbox_name".toList, mailboxName⟩,
    ⟨"hidden".toList, hidden⟩, ⟨"name".toList, name⟩]
  names := by
    show ∀ name ∈ keys, Numbered.IsName name
    decide
  nodup := by
    show keys.Nodup
    decide

/-- **The mailbox that a row describes**, with the defaults of the documentation: a mailbox
without a name has the name of its server. -/
def mailbox (file : GKeyFile ν) (row : MailboxRow ν) : Mailbox :=
  let server := (row.server.bind file.string).getD []
  { server := server
    username := (row.user.bind file.string).getD []
    type := (row.type.bind file.string).getD "pop3".toList
    password := (row.password.bind file.string).getD []
    mailboxName := (row.mailboxName.bind file.string).getD "INBOX".toList
    hidden := (row.hidden.bind file.boolean).getD false
    name := (row.name.bind file.string).getD server
    messagesSeen := 0
    messagesUnseen := 0
    messagesTotal := 0 }

end MailboxRow

namespace FeedRow

variable {ν : Type}

/-- A row without a key. -/
def empty : FeedRow ν := ⟨none, none, none⟩

/-- The keys of a feed. -/
def keys : List Str := ["url".toList, "name".toList, "items".toList]

/-- The keys of a feed, with their values. -/
def schema : Numbered.Schema (FeedRow ν) ν where
  columns := [⟨"url".toList, url⟩, ⟨"name".toList, name⟩, ⟨"items".toList, items⟩]
  names := by
    show ∀ name ∈ keys, Numbered.IsName name
    decide
  nodup := by
    show keys.Nodup
    decide

/-- **The feed that a row describes**; its name is shown, so it is converted. -/
def feed (file : GKeyFile ν) (row : FeedRow ν) : RssFeed where
  url := (row.url.bind file.string).getD []
  name := (file.toLatin1 ((row.name.bind file.string).getD [])).getD []
  items := (row.items.bind file.integer).getD 0

end FeedRow

/-- The value of a key of a table is the one that its row says. -/
theorem lookup_of_hasTable {ν ρ : Type} {schema : Numbered.Schema ρ ν} {group : SettingsGroup ν}
    {first : ℕ} {rows : List ρ} (h : schema.HasTable group.entries first rows) (no : ℕ) :
    ∀ column ∈ schema.columns, group.lookup (column.name ++ decimal no)
      = (Numbered.rowAt first rows no).bind column.value := by
  intro column hcolumn
  rw [decimal_natCast]
  exact h.dlookup_key group.nodupKeys hcolumn no

namespace GKeyFile

variable {ν : Type} (file : GKeyFile ν) {group : SettingsGroup ν} {first : ℕ}

/-- A mailbox is the one that its row describes. -/
theorem initMailbox_eq {rows : List (MailboxRow ν)}
    (h : MailboxRow.schema.HasTable group.entries first rows) (no : ℕ) :
    file.initMailbox group no
      = ((Numbered.rowAt first rows no).getD .empty).mailbox file := by
  have hlookup := lookup_of_hasTable h no
  unfold MailboxRow.schema at hlookup
  simp only [List.forall_mem_cons] at hlookup
  obtain ⟨hserver, huser, htype, hpassword, hmailboxName, hhidden, hname, -⟩ := hlookup
  unfold initMailbox getStringDefault getBooleanDefault
  rw [hserver, huser, htype, hpassword, hmailboxName, hhidden, hname]
  cases Numbered.rowAt first rows no <;> rfl

/-- A feed is the one that its row describes. -/
theorem initFeed_eq {rows : List (FeedRow ν)}
    (h : FeedRow.schema.HasTable group.entries first rows) (no : ℕ) :
    file.initFeed group no = ((Numbered.rowAt first rows no).getD .empty).feed file := by
  have hlookup := lookup_of_hasTable h no
  unfold FeedRow.schema at hlookup
  simp only [List.forall_mem_cons] at hlookup
  obtain ⟨hurl, hname, hitems, -⟩ := hlookup
  unfold initFeed getStringDefaultL1 getStringDefault getIntegerDefault
  rw [hurl, hname, hitems]
  cases Numbered.rowAt first rows no <;> rfl

/-- **The mailboxes are those of the file**, in their order and with the defaults of what is
missing, if the file numbers them from one. A file that numbers them from zero, as the
documentation has it, loses the first of them and has a last one with nothing but defaults. -/
theorem mailInit_table {rows : List (MailboxRow ν)} (hne : rows ≠ [])
    (hnumber : file.getIntegerDefault group "number_of_servers".toList 0 = rows.length) :
    (MailboxRow.schema.HasTable group.entries 1 rows →
      (file.mailInit group).map MailSettings.mailboxes = some (rows.map (MailboxRow.mailbox file)))
    ∧ (MailboxRow.schema.HasTable group.entries 0 rows →
      (file.mailInit group).map MailSettings.mailboxes
        = some (rows.tail.map (MailboxRow.mailbox file) ++ [MailboxRow.empty.mailbox file])) := by
  have hlength : (rows.length : Int) ≠ 0 :=
    fun h => hne (List.length_eq_zero_iff.mp (Int.natCast_eq_zero.mp h))
  have hinit : (file.mailInit group).map MailSettings.mailboxes
      = some ((List.range rows.length).map (fun i => file.initMailbox group (i + 1))) := by
    unfold mailInit
    rw [hnumber, if_neg hlength, Int.toNat_natCast]
    rfl
  rw [hinit]
  constructor
  · intro h
    simp only [file.initMailbox_eq h]
    exact congrArg some (Numbered.map_rowAt_one rows (fun row => (row.getD .empty).mailbox file))
  · intro h
    simp only [file.initMailbox_eq h]
    exact congrArg some
      (Numbered.map_rowAt_zero hne (fun row => (row.getD .empty).mailbox file))

/-- Two mailboxes of the sample file. -/
theorem mailInit_table_two :
    let file : GKeyFile Str :=
      ⟨some, fun s => some (atoi s), fun s => some (s == "true".toList), some⟩
    let rows : List (MailboxRow Str) :=
      [⟨some "imap.1und1.de".toList, some "user".toList, some "imap".toList,
          some "pass".toList, none, none, some "1&1".toList⟩,
        ⟨some "pop3.gmx.net".toList, some "user".toList, some "pop3".toList,
          some "password".toList, none, none, none⟩]
    let entries : List (Σ _ : Str, Str) := MailboxRow.schema.table 1 rows
      ++ [⟨"name".toList, "E-Mail".toList⟩, ⟨"number_of_servers".toList, "2".toList⟩]
    ∃ group : SettingsGroup Str, group.entries = entries
      ∧ (file.mailInit group).map MailSettings.mailboxes
        = some (rows.map (MailboxRow.mailbox file)) := by
  intro file rows entries
  have hnodup : (entries.map Sigma.fst).Nodup := by decide +kernel
  refine ⟨⟨entries, hnodup⟩, rfl, ?_⟩
  have hnumber : file.getIntegerDefault (⟨entries, hnodup⟩ : SettingsGroup Str)
      "number_of_servers".toList 0 = rows.length := by decide +kernel +revert
  have hother : ∀ entry ∈ ([⟨"name".toList, "E-Mail".toList⟩,
      ⟨"number_of_servers".toList, "2".toList⟩] : List (Σ _ : Str, Str)),
      Numbered.IsName entry.1 := by decide
  exact (file.mailInit_table (List.cons_ne_nil _ _) hnumber).1
    (Numbered.Schema.hasTable_append hother)

/-- **The feeds are those of the file**, in the same way. -/
theorem rssInit_table {rows : List (FeedRow ν)} (hne : rows ≠ [])
    (hnumber : file.getIntegerDefault group "number_of_feeds".toList 0 = rows.length) :
    (FeedRow.schema.HasTable group.entries 1 rows →
      (file.rssInit group).map RssSettings.feeds = some (rows.map (FeedRow.feed file)))
    ∧ (FeedRow.schema.HasTable group.entries 0 rows →
      (file.rssInit group).map RssSettings.feeds
        = some (rows.tail.map (FeedRow.feed file) ++ [FeedRow.empty.feed file])) := by
  have hlength : (rows.length : Int) ≠ 0 :=
    fun h => hne (List.length_eq_zero_iff.mp (Int.natCast_eq_zero.mp h))
  have hinit : (file.rssInit group).map RssSettings.feeds
      = some ((List.range rows.length).map (fun i => file.initFeed group (i + 1))) := by
    unfold rssInit
    rw [hnumber, if_neg hlength, Int.toNat_natCast]
    rfl
  rw [hinit]
  constructor
  · intro h
    simp only [file.initFeed_eq h]
    exact congrArg some (Numbered.map_rowAt_one rows (fun row => (row.getD .empty).feed file))
  · intro h
    simp only [file.initFeed_eq h]
    exact congrArg some (Numbered.map_rowAt_zero hne (fun row => (row.getD .empty).feed file))

/-- Two feeds, with the numbers that the documentation gives them. -/
theorem rssInit_table_zero :
    let file : GKeyFile Str :=
      ⟨some, fun s => some (atoi s), fun s => some (s == "true".toList), some⟩
    let rows : List (FeedRow Str) := [⟨some "http://www.heise.de/newsticker/heise.rdf".toList,
      some "Heise".toList, some "10".toList⟩, ⟨some "url".toList, some "News".toList, none⟩]
    let entries : List (Σ _ : Str, Str) :=
      FeedRow.schema.table 0 rows ++ [⟨"number_of_feeds".toList, "2".toList⟩]
    ∃ group : SettingsGroup Str, group.entries = entries
      ∧ (file.rssInit group).map RssSettings.feeds
        = some [⟨"url".toList, "News".toList, 0⟩, ⟨[], [], 0⟩] := by
  intro file rows entries
  have hnodup : (entries.map Sigma.fst).Nodup := by decide +kernel
  refine ⟨⟨entries, hnodup⟩, rfl, ?_⟩
  have hnumber : file.getIntegerDefault (⟨entries, hnodup⟩ : SettingsGroup Str)
      "number_of_feeds".toList 0 = rows.length := by decide +kernel +revert
  have hother : ∀ entry ∈ ([⟨"number_of_feeds".toList, "2".toList⟩] : List (Σ _ : Str, Str)),
      Numbered.IsName entry.1 := by decide
  exact (file.rssInit_table (List.cons_ne_nil _ _) hnumber).2
    (Numbered.Schema.hasTable_append hother)

end GKeyFile
