import CaptureTheFlag.Server.TickFrame

/-! # Players stay clear of the walls -/
namespace CaptureTheFlag
set_option autoImplicit false

namespace Sim

def InArena (s : Sim) : Prop :=
  ∀ id, (s.players id).active = true → Map.arena.aabbCollides (s.players id).position = false

theorem InArena.update {s s' : Sim} (h : s.InArena) (id : Fin kMaxPlayers) (p : Player)
    (hPlayers : s'.players = Function.update s.players id p)
    (hFree : p.active = true → Map.arena.aabbCollides p.position = false) : s'.InArena := by
  intro i hActive
  rw [hPlayers] at hActive ⊢
  by_cases hi : i = id
  · subst hi
    rw [Function.update_self] at hActive ⊢
    exact hFree hActive
  · rw [Function.update_of_ne hi] at hActive ⊢
    exact h i hActive

theorem InArena.congr {s s' : Sim} (h : s.InArena) (hPlayers : s'.players = s.players) : s'.InArena := by
  intro i hActive
  rw [hPlayers] at hActive ⊢
  exact h i hActive

theorem acceptInput_position (p : Player) (seq : U32) (input : InputCmd) :
    (p.acceptInput seq input).active = p.active ∧ (p.acceptInput seq input).position = p.position := by
  simp only [Player.acceptInput]
  split
  · exact ⟨rfl, rfl⟩
  · split
    · exact ⟨rfl, rfl⟩
    · split <;> exact ⟨rfl, rfl⟩

theorem popped_position (p : Player) : p.popped.active = p.active ∧ p.popped.position = p.position := by
  simp only [Player.popped]
  split <;> exact ⟨rfl, rfl⟩

theorem inArena_preserved : Preserved InArena where
  command s cmd s' hApplied h := by
    cases hApplied with
    | ignored => exact h
    | join id team spawnIndex hGoing hFree => exact h.update id _ rfl (fun _ => spawnPoint_free _ _)
    | leave id hGoing hActive => exact h.update id {} rfl (fun hDefault => by cases hDefault)
    | input id seq input hGoing hActive =>
      obtain ⟨-, hPosition⟩ := acceptInput_position (s.players id) seq input
      exact h.update id _ rfl (fun _ => by rw [hPosition]; exact h id hActive)
  pop s h := by
    rw [popInputs_eq]
    intro i hActive
    simp only at hActive ⊢
    split at hActive
    · rename_i hBefore
      rw [if_pos hBefore, (popped_position _).2]
      exact h i hBefore
    · exact absurd hActive ‹_›
  move s h := by
    rw [movePlayers_eq]
    intro i hActive
    simp only at hActive ⊢
    split
    · rename_i hLive
      exact movementStep_free _ _ _ (h i hLive.1)
    · rename_i hSkip
      rw [if_neg hSkip] at hActive
      exact h i hActive
  combat s s' hChange h := by
    cases hChange with
    | cool id hLive => exact h.update id _ rfl (fun hActive => h id hActive)
    | shoot id msg hLive => exact h.update id _ rfl (fun hActive => h id hActive)
    | wound id health hLive => exact h.update id _ rfl (fun hActive => h id hActive)
    | kill id msg hLive hFree => exact h.update id _ rfl (fun hActive => h id hActive)
    | killCarrier id drop msg hDrops hLive hCarries => exact h.update id _ rfl (fun hActive => h id hActive)
  flags s s' hChange h := by
    cases hChange with
    | follow team position hCarried => exact h.congr rfl
    | flagReturn team playerId hDropped => exact h.congr rfl
    | pickUp id hLive hFree hState hTouch => exact h.update id _ rfl (fun hActive => h id hActive)
    | capture id hLive hCarries => exact h.update id _ rfl (fun hActive => h id hActive)
  respawn s s' hChange h := by
    cases hChange with
    | countDown id hDead => exact h.update id _ rfl (fun hActive => h id hActive)
    | respawn id msg hActive hDead hDue => exact h.update id _ rfl (fun _ => spawnPoint_free _ _)
  win s h := h.congr (winCheck_players s)
  publish s h := h.congr (publish_players s)
  clock s t h := h.congr rfl

end Sim
end CaptureTheFlag
