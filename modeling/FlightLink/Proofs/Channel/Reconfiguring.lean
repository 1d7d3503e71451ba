import FlightLink.Proofs.Channel.Chronicle
import FlightLink.Proofs.Channel.Course
import FlightLink.Proofs.Settings

/-!
# New settings

A channel takes new settings as a whole or not at all.  They have to pass the check
and to name the role that the channel has; otherwise the command is logged as an
error and forgotten.  So the configuration of a channel has always passed the check,
and it is always one for the role that the channel was made for.
-/

namespace FlightLink

namespace Channel

/-- The channel was made for a role, and its configuration is a checked one for that
role. -/
structure Configured (r : Role) (c : Channel) : Prop where
  role : c.role = r
  config : c.config.role = r
  checked : ∃ s : Settings, s.check = .ok c.config

variable {r : Role} {c : Channel}

theorem Configured.endpoint (h : c.Configured r) : c.config.endpoint.role = r := by
  obtain ⟨s, hcheck⟩ := h.checked
  exact (Settings.endpoint_role_of_check hcheck).trans h.config

theorem configured_ofConfig {s : Settings} {config : Config} (h : s.check = .ok config) :
    (ofConfig config).Configured config.role :=
  ⟨rfl, rfl, s, h⟩

/-- Only the role and the configuration matter. -/
theorem Configured.congr (h : c.Configured r) {c' : Channel} (hrole : c'.role = c.role)
    (hconfig : c'.config = c.config) : c'.Configured r := by
  refine ⟨hrole.trans h.role, ?_, ?_⟩
  · rw [hconfig]
    exact h.config
  · rw [hconfig]
    exact h.checked

/-! ## One command -/

/-- Settings that break a rule or name another role are reported and forgotten. -/
theorem reconfigure_refused {s : Settings}
    (h : ∀ config, s.check = .ok config → config.role ≠ c.config.role) :
    ∃ text, c.reconfigure s = ⟨c, [.action (.log (.plain c.config.id .error text))]⟩ := by
  unfold reconfigure
  split
  · exact ⟨_, rfl⟩
  · next config hcheck =>
      rw [if_pos (h config hcheck)]
      exact ⟨_, rfl⟩

/-- Other settings replace the configuration, and nothing else. -/
theorem reconfigure_accepted {s : Settings} {config : Config} (hcheck : s.check = .ok config)
    (hrole : config.role = c.config.role) :
    c.reconfigure s =
      ⟨{ c with config },
        [logged { c with config } .info s!"reconfigured for {config.url}",
          .action .reconfigure]⟩ := by
  rw [reconfigure, hcheck]
  exact if_neg (not_not.2 hrole)

theorem Configured.reconfigure (h : c.Configured r) (s : Settings) :
    (c.reconfigure s).channel.Configured r := by
  by_cases hrefused : ∀ config, s.check = .ok config → config.role ≠ c.config.role
  · obtain ⟨text, heq⟩ := reconfigure_refused hrefused
    rw [heq]
    exact h
  · push Not at hrefused
    obtain ⟨config, hcheck, hrole⟩ := hrefused
    rw [reconfigure_accepted hcheck hrole]
    exact ⟨h.role, hrole.trans h.config, s, hcheck⟩

/-! ## Runs -/

theorem Chronicle.lasting_configured (r : Role) :
    Lasting (fun _ => True) (fun _ => True) (·.channel.Configured r) where
  raise h _ := h.congr (raise_role _ _) (raise_config _ _)
  dispatch h m :=
    Lasting.dispatch_of_raise (P := (·.channel.Configured r)) (fun _ _ h => h)
      (fun _ _ h _ => h.congr (raise_role _ _) (raise_config _ _)) h m
  forget h _ _ := h.congr rfl rfl
  disable {x} h := by
    rw [proceed_channel, Channel.disable]
    split <;> exact h.congr rfl rfl
  obey {x y} h _ := by
    rw [proceed_channel]
    cases y with
    | data text => rw [Channel.obey]; split <;> exact h.congr rfl rfl
    | startup => rw [Channel.obey]; dsimp only; split <;> exact h.congr rfl rfl
    | shutdown => exact h.congr (raise_role _ _) (raise_config _ _)
    | disconnect => exact h.congr (raise_role _ _) (raise_config _ _)
    | disable => rw [Channel.obey, Channel.disable]; split <;> exact h.congr rfl rfl
    | enable => rw [Channel.obey]; split <;> exact h.congr rfl rfl
    | reconfigure s => exact h.reconfigure s

/-- Whatever a channel takes in, its configuration is a checked one for its role. -/
theorem Configured.stepAll (h : c.Configured r) (hholds : c.HoldsInOrder) (l : List Input) :
    (c.stepAll l).channel.Configured r := by
  have hrun := (Chronicle.lasting_configured r).run_of_forall (x := ⟨c, []⟩) h hholds
    (l := l) fun i _ y _ => by
      cases i with
      | connectionChanged up => cases up <;> simp [Chronicle.Permits]
      | _ => simp [Chronicle.Permits]
  rwa [(Chronicle.run_faithful hholds l).1] at hrun

namespace Queued.Course

/-- The channel that any use of a queued channel leads to is configured for its
role. -/
theorem configured_run {s : Settings} {config : Config} (h : s.check = .ok config)
    (ops : List Operation) :
    (run config ops).queued.channel.Configured config.role := by
  induction ops using List.reverseRecOn with
  | nil => exact configured_ofConfig h
  | append_singleton ops op ih =>
      rw [run, List.foldl_append]
      cases op with
      | input i =>
          have hstep := ih.stepAll (accounts_run config ops).holds [i]
          rw [stepAll_singleton] at hstep
          exact hstep
      | poll =>
          change ((run config ops).queued.poll.2).channel.Configured _
          rw [channel_poll]
          exact ih

end Queued.Course

end Channel

end FlightLink
