import LcdStuff.Playlists
import Mathlib.Data.List.Chain

/-!
# The menu and the list of the playlists

`mpd_update_playlist_menu` stores every list of playlists that the daemon returns, but it
builds the menu anew only when `mpd_playlists_equals` says that the list has changed, and that
does not look at the case of the names. So where a name has changed in case only, the menu
keeps the label that is gone, and the item loads another playlist than it says.

What the server does with the commands is known only as far as their labels are arguments that
it reads (`MenuServer.Keeps`); with any other label it may do whatever it likes. So the menu is
in step on every such server exactly if every change of the list is detected and every name is
one argument of its command (`MenuInStep.inStep_iff`).
-/

namespace MenuServer

/-- **A server keeps the menu of the playlists**, with the items in the order in which they were
added, as long as it reads the labels. -/
structure Keeps (server : MenuServer) (Reads : Str → Prop)
    (menu : server.State → Option (List (Int × Str))) : Prop where
  /-- There is no menu at first. -/
  init : menu server.init = none
  /-- What is shown are the items of the menu. -/
  shown : ∀ state, server.shown state = (menu state).getD []
  /-- A menu that is added has no items. -/
  addMenu : ∀ state label, Reads label → menu state = none →
    menu (server.carryOut state (.menuAddMenu "mpd_pl".toList label)) = some []
  /-- An item is added behind the others, if there is none with its number. -/
  addItem : ∀ state items no label, Reads label → menu state = some items →
    (∀ item ∈ items, item.1 ≠ no) →
    menu (server.carryOut state (.menuAddAction "mpd_pl".toList no label))
      = some (items ++ [(no, label)])
  /-- The items go with the menu. -/
  delMenu : ∀ state, menu (server.carryOut state (.menuDelItem "mpd_pl".toList)) = none

/-- A server that reads any label. -/
theorem keeps_playlistMenu (Reads : Str → Prop) :
    playlistMenu.Keeps Reads (fun menu => menu) where
  init := rfl
  shown _ := rfl
  addMenu _ _ _ hmenu := by
    subst hmenu
    rfl
  addItem _ items no label _ hmenu hitems := by
    subst hmenu
    exact congrArg some (if_pos ⟨rfl, hitems⟩)
  delMenu _ := rfl

/-- What a server makes of a command that ignores every item whose label it does not read. -/
def carryOutClean (menu : Option (List (Int × Str))) : Command → Option (List (Int × Str))
  | .menuAddAction name no label =>
    if Clean label then carryOutMenu menu (.menuAddAction name no label) else menu
  | cmd => carryOutMenu menu cmd

/-- **A server that ignores items with other labels.** -/
def cleanMenu : MenuServer where
  State := Option (List (Int × Str))
  init := none
  carryOut := carryOutClean
  shown menu := menu.getD []
  shown_init := playlistMenu.shown_init
  shown_carryOut menu cmd hclean item hitem := by
    have hsame : carryOutClean menu cmd = carryOutMenu menu cmd := by
      cases cmd with
      | menuAddAction name no label => exact if_pos (hclean name no label rfl)
      | _ => rfl
    rw [hsame] at hitem
    exact playlistMenu.shown_carryOut menu cmd hclean item hitem

/-- It keeps the menu as far as it reads the labels. -/
theorem keeps_cleanMenu : cleanMenu.Keeps Clean (fun menu => menu) where
  init := rfl
  shown _ := rfl
  addMenu := (keeps_playlistMenu Clean).addMenu
  addItem state items no label hlabel hmenu hitems := by
    refine (if_pos hlabel).trans ?_
    exact (keeps_playlistMenu Clean).addItem state items no label hlabel hmenu hitems
  delMenu := (keeps_playlistMenu Clean).delMenu

/-- It has no other items. -/
theorem clean_of_carryOutClean {menu : Option (List (Int × Str))}
    (h : ∀ items ∈ menu, ∀ item ∈ items, Clean item.2) (cmd : Command) :
    ∀ items ∈ carryOutClean menu cmd, ∀ item ∈ items, Clean item.2 := by
  cases cmd with
  | menuAddMenu name label =>
    intro items hitems
    unfold carryOutClean carryOutMenu at hitems
    dsimp only at hitems
    split at hitems
    · obtain rfl := Option.some.inj hitems
      cases menu with
      | none => exact fun item hitem => absurd hitem List.not_mem_nil
      | some items => exact h items rfl
    · exact h items hitems
  | menuAddAction name no label =>
    intro items hitems
    unfold carryOutClean at hitems
    dsimp only at hitems
    split at hitems
    · next hlabel =>
      obtain ⟨old, hold, rfl⟩ := Option.map_eq_some_iff.mp hitems
      split
      · refine List.forall_mem_append.mpr ⟨h old hold, ?_⟩
        exact List.forall_mem_singleton.mpr hlabel
      · exact h old hold
    · exact h items hitems
  | menuDelItem name =>
    intro items hitems
    unfold carryOutClean carryOutMenu at hitems
    dsimp only at hitems
    split at hitems
    · exact absurd hitems (Option.not_mem_none _)
    · exact h items hitems
  | _ => exact h

end MenuServer

/-- The items of the menu for a list of playlists. -/
def menuItems (list : List Str) : List (Int × Str) :=
  (0, "== Clear ==".toList) :: list.mapIdx (fun i name => ((i : Int) + 1, name))

/-- An item loads a playlist, and no other. -/
def LcdStuffMpd.Loads (mpd : LcdStuffMpd) (no : Int) (name : Str) : Prop :=
  ∀ now arg, ∃ mpd' calls,
    mpd.menuHandler now ("pl".toList ++ '_' :: decimal no) arg = .ok (mpd', calls)
    ∧ ∀ other, .playlistQueueLoad other ∈ calls ↔ other = name

/-- The module and the server. -/
structure MenuInStep (server : MenuServer) where
  /-- The module. -/
  mpd : LcdStuffMpd
  /-- What the server keeps. -/
  state : server.State

namespace MenuInStep

variable {server : MenuServer} {Reads : Str → Prop}
  {menu : server.State → Option (List (Int × Str))}

/-- `mpd_update_playlist_menu`, with the list that the daemon returns, and then all that it has
queued is carried out. -/
def update (s : MenuInStep server) (list : List Str) : MenuInStep server :=
  let r := s.mpd.updatePlaylistMenu list
  ⟨r.1, r.2.foldl server.carryOut s.state⟩

/-- One call after the other. -/
def updates (s : MenuInStep server) (lists : List (List Str)) : MenuInStep server :=
  lists.foldl update s

/-- **The menu is in step with the list**: it has an item for each playlist, with the name as its
label, behind the one that clears, and each loads the playlist that its label names; the numbers
of the items are of type `int`. -/
def InStep (menu : server.State → Option (List (Int × Str))) (s : MenuInStep server) : Prop :=
  ∀ list, s.mpd.currentList = some list → menu s.state = some (menuItems list)
    ∧ ∀ (i : ℕ) (name : Str), list[i]? = some name → (i : Int) + 1 < 2 ^ 31 →
      s.mpd.Loads (i + 1) name

/-- The items that are added behind others with lower numbers. -/
theorem carryOut_items (hserver : server.Keeps Reads menu) {list : List Str}
    (hlist : ∀ name ∈ list, Reads name) {k : Int} {state : server.State}
    {items : List (Int × Str)} (hmenu : menu state = some items)
    (hitems : ∀ item ∈ items, item.1 < k) :
    menu ((list.mapIdx (fun i name =>
        Command.menuAddAction "mpd_pl".toList ((i : Int) + k) name)).foldl server.carryOut state)
      = some (items ++ list.mapIdx (fun i name => ((i : Int) + k, name))) := by
  induction list generalizing k state items with
  | nil =>
    rw [List.mapIdx_nil, List.mapIdx_nil, List.append_nil, List.foldl_nil]
    exact hmenu
  | cons name list ih =>
    obtain ⟨hname, hlist⟩ := List.forall_mem_cons.mp hlist
    have hadd := hserver.addItem state items (((0 : ℕ) : Int) + k) name hname hmenu
      (fun item hitem => by
        have hlt := hitems item hitem
        omega)
    have hnext : ∀ item ∈ items ++ [(((0 : ℕ) : Int) + k, name)], item.1 < k + 1 := by
      intro item hitem
      rcases List.mem_append.mp hitem with hitem | hitem
      · have hlt := hitems item hitem
        omega
      · rw [List.mem_singleton.mp hitem]
        dsimp only
        omega
    have hshift : ∀ i : ℕ, (((i + 1 : ℕ) : Int) + k) = (i : Int) + (k + 1) := fun i => by omega
    rw [List.mapIdx_cons, List.mapIdx_cons, List.foldl_cons]
    simp only [hshift]
    rw [ih hlist hadd hnext, List.append_assoc]
    rfl

/-- **The commands that build the menu give its items.** -/
theorem carryOut_playlistMenu (hserver : server.Keeps Reads menu)
    (hfixed : Reads "Playlists".toList ∧ Reads "== Clear ==".toList) {list : List Str}
    (hlist : ∀ name ∈ list, Reads name) {state : server.State} (hmenu : menu state = none) :
    menu ((LcdStuffMpd.playlistMenu list).foldl server.carryOut state)
      = some (menuItems list) := by
  have hadded := hserver.addMenu state _ hfixed.1 hmenu
  have hclear := hserver.addItem _ _ 0 _ hfixed.2 hadded (fun _ h => absurd h List.not_mem_nil)
  rw [LcdStuffMpd.playlistMenu, List.foldl_cons, List.foldl_cons]
  exact carryOut_items hserver hlist hclear (fun item hitem => by
    rw [List.mem_singleton.mp hitem]
    exact Int.zero_lt_one)

/-- The labels are the names. -/
theorem menuItems_inj {a b : List Str} (h : menuItems a = menuItems b) : a = b := by
  have hlabel : ∀ (list : List Str) (i : ℕ),
      list[i]? = ((list.mapIdx (fun i name => ((i : Int) + 1, name)))[i]?).map Prod.snd := by
    intro list i
    rw [List.getElem?_mapIdx, Option.map_map]
    exact Option.map_id_apply.symm
  refine List.ext_getElem? (fun i => ?_)
  rw [hlabel a, hlabel b, (List.cons.inj h).2]

/-- An item loads the playlist that is stored at its place. -/
theorem loads_of_getElem? {mpd : LcdStuffMpd} {list : List Str} {i : ℕ} {name : Str}
    (hlist : mpd.currentList = some list) (hname : list[i]? = some name)
    (hi : (i : Int) + 1 < 2 ^ 31) : mpd.Loads (i + 1) name := by
  intro now arg
  have hlt : i < list.length := (List.getElem?_eq_some_iff.mp hname).1
  have hsplit : gStrsplit ("pl".toList ++ '_' :: decimal ((i : Int) + 1)) "_".toList 2
      = ["pl".toList, decimal ((i : Int) + 1)] := gStrsplit_two_append (by decide)
  have hatoi : atoi (decimal ((i : Int) + 1)) = (i : Int) + 1 := by
    have happend := atoi_decimal_append (n := i + 1) (by omega) (t := []) nofun
    rw [List.append_nil] at happend
    exact happend
  have hno : wrapInt (atoi (decimal ((i : Int) + 1)) - 1) = i := by
    rw [hatoi, Int.add_sub_cancel]
    exact wrapInt_of_mem (by omega) (by omega)
  have hread : readAt list i = .ok name := readAt_of_getElem? hname
  have hneg : ¬ (i : Int) = -1 := by omega
  obtain ⟨calls, hcalls⟩ := (mpd.loadPlaylist_isOk_iff i).mpr (.inl (by omega))
  refine ⟨mpd, calls, ?_, fun other => ?_⟩
  · rw [mpd.menuHandler_eq now arg hsplit rfl, hno, hcalls]
    rfl
  · rw [LcdStuffMpd.mem_loadPlaylist_iff hcalls]
    constructor
    · rintro ⟨-, list', hlist', -, hother⟩
      obtain rfl := Option.some.inj (hlist.symm.trans hlist')
      exact Except.ok.inj (hother.symm.trans hread)
    · rintro rfl
      exact ⟨hneg, list, hlist, by omega, hread⟩

/-- A menu that was built from the list is in step with it. -/
theorem inStep_of_eq {s : MenuInStep server} {list : List Str}
    (hlist : s.mpd.currentList = some list) :
    s.InStep menu ↔ menu s.state = some (menuItems list) := by
  constructor
  · exact fun h => (h list hlist).1
  · rintro hmenu list' hlist'
    obtain rfl := Option.some.inj (hlist.symm.trans hlist')
    exact ⟨hmenu, fun i name hname hi => loads_of_getElem? hlist hname hi⟩

/-- **A call** builds the menu of its list, unless it finds no change. -/
theorem update_menu (hserver : server.Keeps Reads menu)
    (hfixed : Reads "Playlists".toList ∧ Reads "== Clear ==".toList) {s : MenuInStep server}
    (hs : s.mpd.currentList = none → menu s.state = none) {list : List Str}
    (hlist : ∀ name ∈ list, Reads name) :
    (s.update list).mpd.currentList = some list ∧ menu (s.update list).state =
      if ∃ old, s.mpd.currentList = some old ∧ LcdStuffMpd.playlistsEquals old list = true then
        menu s.state
      else some (menuItems list) := by
  refine ⟨rfl, ?_⟩
  unfold update LcdStuffMpd.updatePlaylistMenu
  cases hold : s.mpd.currentList with
  | none =>
    rw [if_neg (fun ⟨_, h, _⟩ => nomatch h)]
    exact carryOut_playlistMenu hserver hfixed hlist (hs hold)
  | some old =>
    dsimp only
    by_cases hequals : LcdStuffMpd.playlistsEquals old list = true
    · rw [if_pos hequals, if_pos ⟨old, rfl, hequals⟩]
      rfl
    · rw [if_neg hequals, if_neg (fun ⟨_, h, h'⟩ => hequals (Option.some.inj h ▸ h'))]
      exact carryOut_playlistMenu hserver hfixed hlist (hserver.delMenu s.state)

/-- A change of the list is detected. -/
def Detected (old new : List Str) : Prop := LcdStuffMpd.playlistsEquals old new = true → old = new

/-- What holds after every call holds at first, and after every call behind the first. -/
theorem forall_updates_cons {s : MenuInStep server} {list : List Str} {lists : List (List Str)} :
    (∀ before, before <+: list :: lists → (s.updates before).InStep menu)
      ↔ s.InStep menu ∧ ∀ before, before <+: lists →
        ((s.update list).updates before).InStep menu := by
  constructor
  · intro h
    refine ⟨h [] (List.nil_prefix ..), fun before hbefore => h (list :: before) ?_⟩
    exact List.prefix_cons_iff.mpr (.inr ⟨before, rfl, hbefore⟩)
  · rintro ⟨hfirst, hrest⟩ before hbefore
    rcases List.prefix_cons_iff.mp hbefore with rfl | ⟨rest, rfl, hrest'⟩
    · exact hfirst
    · exact hrest rest hrest'

/-- **From a menu in step on**, it stays in step as long as every change is detected. -/
theorem inStep_updates_iff (hserver : server.Keeps Reads menu)
    (hfixed : Reads "Playlists".toList ∧ Reads "== Clear ==".toList) {s : MenuInStep server}
    {list : List Str} (hlist : s.mpd.currentList = some list)
    (hmenu : menu s.state = some (menuItems list)) {lists : List (List Str)}
    (hlists : ∀ list ∈ lists, ∀ name ∈ list, Reads name) :
    (∀ before, before <+: lists → (s.updates before).InStep menu)
      ↔ (list :: lists).IsChain Detected := by
  have hstep : s.InStep menu := (inStep_of_eq hlist).mpr hmenu
  induction lists generalizing s list with
  | nil =>
    refine iff_of_true (fun before hbefore => ?_) (List.isChain_singleton list)
    obtain rfl := List.prefix_nil.mp hbefore
    exact hstep
  | cons next lists ih =>
    obtain ⟨hnext, hrest⟩ := List.forall_mem_cons.mp hlists
    have hnone : s.mpd.currentList = none → menu s.state = none :=
      fun h => nomatch hlist.symm.trans h
    obtain ⟨hlist', hmenu'⟩ := update_menu hserver hfixed hnone hnext
    rw [forall_updates_cons, and_iff_right hstep, List.isChain_cons_cons]
    by_cases hequals : LcdStuffMpd.playlistsEquals list next = true
    · rw [if_pos ⟨list, hlist, hequals⟩, hmenu] at hmenu'
      by_cases hsame : list = next
      · subst hsame
        have hstep' := (inStep_of_eq hlist').mpr hmenu'
        have hdetected : Detected list list := fun _ => rfl
        rw [and_iff_right hdetected]
        exact ih hlist' hmenu' hrest hstep'
      · -- the menu keeps the labels that are gone
        refine iff_of_false (fun h => ?_) (fun h => hsame (h.1 hequals))
        have hitems := (inStep_of_eq hlist').mp (h [] (List.nil_prefix ..))
        exact hsame (menuItems_inj (Option.some.inj (hmenu'.symm.trans hitems)))
    · have hchanged : ¬ ∃ old, s.mpd.currentList = some old
          ∧ LcdStuffMpd.playlistsEquals old next = true := by
        rintro ⟨old, hold, holdEquals⟩
        obtain rfl := Option.some.inj (hlist.symm.trans hold)
        exact hequals holdEquals
      rw [if_neg hchanged] at hmenu'
      have hstep' := (inStep_of_eq hlist').mpr hmenu'
      have hdetected : Detected list next := fun h => absurd h hequals
      rw [and_iff_right hdetected]
      exact ih hlist' hmenu' hrest hstep'

/-- The module before the daemon was asked, and the server before it was told anything. -/
def start (server : MenuServer) (mpd : LcdStuffMpd) : MenuInStep server :=
  ⟨{ mpd with currentList := none }, server.init⟩

/-- **On a server that reads the names**, the menu is in step with the list after every call
exactly if every change of the list is detected. -/
theorem inStep_start_iff (hserver : server.Keeps Reads menu)
    (hfixed : Reads "Playlists".toList ∧ Reads "== Clear ==".toList) (mpd : LcdStuffMpd)
    {lists : List (List Str)} (hlists : ∀ list ∈ lists, ∀ name ∈ list, Reads name) :
    (∀ before, before <+: lists → ((start server mpd).updates before).InStep menu)
      ↔ lists.IsChain Detected := by
  have hstart : (start server mpd).InStep menu := nofun
  cases lists with
  | nil =>
    refine iff_of_true (fun before hbefore => ?_) .nil
    obtain rfl := List.prefix_nil.mp hbefore
    exact hstart
  | cons list lists =>
    obtain ⟨hlist, hlists⟩ := List.forall_mem_cons.mp hlists
    obtain ⟨hcurrent, hmenu⟩ := update_menu (s := start server mpd) hserver hfixed
      (fun _ => hserver.init) hlist
    rw [if_neg (fun ⟨_, h, _⟩ => nomatch h)] at hmenu
    rw [forall_updates_cons, and_iff_right hstart]
    exact inStep_updates_iff hserver hfixed hcurrent hmenu hlists

/-- A server that ignores items has no item with a name that is not one argument. -/
theorem clean_updates (mpd : LcdStuffMpd) (lists : List (List Str)) :
    ∀ items : List (Int × Str), ((start .cleanMenu mpd).updates lists).state = some items →
      ∀ item ∈ items, Clean item.2 := by
  have hupdate : ∀ (s : MenuInStep .cleanMenu) (lists : List (List Str)),
      (∀ items : List (Int × Str), s.state = some items → ∀ item ∈ items, Clean item.2) →
      ∀ items : List (Int × Str), (s.updates lists).state = some items →
        ∀ item ∈ items, Clean item.2 := by
    intro s lists hs
    induction lists generalizing s with
    | nil => exact hs
    | cons list lists ih =>
      refine ih (s.update list) ?_
      unfold update
      dsimp only
      generalize (s.mpd.updatePlaylistMenu list).2 = cmds
      generalize s.state = menu at hs
      induction cmds generalizing menu with
      | nil => exact hs
      | cons cmd cmds ih => exact ih _ (MenuServer.clean_of_carryOutClean hs cmd)
  exact hupdate _ lists (fun items h => absurd h.symm (Option.some_ne_none items))

/-- **The menu is in step with the list after every call**, on every server that keeps it as far
as it reads the labels, exactly if every name is one argument of its command and every change of
the list is detected. -/
theorem inStep_iff (mpd : LcdStuffMpd) (lists : List (List Str)) :
    (∀ (server : MenuServer) (menu : server.State → Option (List (Int × Str))),
        server.Keeps Clean menu →
        ∀ before, before <+: lists → ((start server mpd).updates before).InStep menu)
      ↔ (∀ list ∈ lists, ∀ name ∈ list, Clean name) ∧ lists.IsChain Detected := by
  constructor
  · intro h
    constructor
    · -- the server that ignores what it does not read would lack an item
      intro list hlist name hname
      obtain ⟨before, after, rfl⟩ := List.append_of_mem hlist
      have hprefix : before ++ [list] <+: before ++ list :: after := ⟨after, List.append_assoc ..⟩
      have hstep := h .cleanMenu _ MenuServer.keeps_cleanMenu _ hprefix
      have hupdates : ((start .cleanMenu mpd).updates (before ++ [list])).mpd.currentList
          = some list := by
        unfold updates
        rw [List.foldl_concat]
        rfl
      obtain ⟨i, hi, rfl⟩ := List.getElem_of_mem hname
      have hitem : ((i : Int) + 1, list[i]) ∈ menuItems list :=
        List.mem_cons_of_mem _ (List.mem_mapIdx.mpr ⟨i, hi, rfl⟩)
      exact clean_updates mpd _ _ (hstep list hupdates).1 _ hitem
    · exact (inStep_start_iff (MenuServer.keeps_playlistMenu (fun _ => True)) ⟨trivial, trivial⟩ mpd
        (fun _ _ _ _ => trivial)).mp (h .playlistMenu _ (MenuServer.keeps_playlistMenu Clean))
  · rintro ⟨hclean, hchain⟩ server menu hserver
    exact (inStep_start_iff hserver (by decide) mpd hclean).mpr hchain

/-- **A name that changes in case only**: the menu keeps the old one. -/
theorem not_inStep_of_case :
    ¬ ∀ (server : MenuServer) (menu : server.State → Option (List (Int × Str))),
      server.Keeps Clean menu → ∀ (mpd : LcdStuffMpd) (lists : List (List Str)),
        ((start server mpd).updates lists).InStep menu := by
  intro h
  let mpd : LcdStuffMpd := ⟨.play, false, none, 0, none, ⟨⟨⟨20, 4⟩, false⟩, "mpd".toList⟩⟩
  have hitems := (h .playlistMenu _ (MenuServer.keeps_playlistMenu Clean) mpd
    [["Rock".toList], ["rock".toList]] ["rock".toList] rfl).1
  have hmenu : ((start .playlistMenu mpd).updates [["Rock".toList], ["rock".toList]]).state
      = some (menuItems ["Rock".toList]) := by
    rfl
  have hne : menuItems ["Rock".toList] ≠ menuItems ["rock".toList] := by
    decide +kernel
  exact hne (Option.some.inj (hmenu.symm.trans hitems))

end MenuInStep
