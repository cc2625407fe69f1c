import Ldm7.Basic

/-! The facility of the logging module's appender to the system logging daemon
(`log2log4c.c`). An `int` is a 32-bit two's-complement word (`CInt`), so the arithmetic
of the range test of `log_set_facility` wraps. The facilities have their `<syslog.h>` values. -/
namespace Ldm7
namespace Log

/-- `LOG_USER`, `1 << 3`. -/
def logUser : CInt := 8

/-- `LOG_LOCAL0` … `LOG_LOCAL7`, `(16 + i) << 3`. -/
def logLocal (i : Nat) : CInt := BitVec.ofNat 32 ((16 + i) * 8)

/-- A Log4C appender to the system logging daemon: its name, and its `udata`, the facility
that `init_appender_syslog` stores as a pointer-sized integer. -/
structure Appender where
  name : String
  udata : CInt
  deriving DecidableEq

def initAppenderSyslog (facility : CInt) (name : String) : Appender := ⟨name,facility⟩

def facs : List (String × CInt) :=
  [("syslog_local0",logLocal 0),("syslog_local1",logLocal 1),("syslog_local2",logLocal 2),
   ("syslog_local3",logLocal 3),("syslog_local4",logLocal 4),("syslog_local5",logLocal 5),
   ("syslog_local6",logLocal 6),("syslog_local7",logLocal 7)]

def appendersSyslogLocal : List Appender := facs.map fun fac => initAppenderSyslog fac.2 fac.1

def appenderSyslogUser : Appender := initAppenderSyslog logUser "syslog_user"

/-- `log_get_syslog_appender`; `none` is `NULL`. -/
def logGetSyslogAppender (facility : CInt) : Option Appender :=
  if facility = logLocal 0 then appendersSyslogLocal[0]?
  else if facility = logLocal 1 then appendersSyslogLocal[1]?
  else if facility = logLocal 2 then appendersSyslogLocal[2]?
  else if facility = logLocal 3 then appendersSyslogLocal[3]?
  else if facility = logLocal 4 then appendersSyslogLocal[4]?
  else if facility = logLocal 5 then appendersSyslogLocal[5]?
  else if facility = logLocal 6 then appendersSyslogLocal[6]?
  else if facility = logLocal 7 then appendersSyslogLocal[7]?
  else if facility = logUser then some appenderSyslogUser
  else none

/-- `log_set_facility` with `log_appender_syslog` before the call: the status, and
`log_appender_syslog` afterwards. -/
def logSetFacility (logAppenderSyslog : Option Appender) (facility : CInt) :
    Int × Option Appender :=
  if facility ≠ logUser ∧ BitVec.slt 0 ((logLocal 0 - facility) * (logLocal 7 - facility)) then
    (-1,logAppenderSyslog)
  else (0,logGetSyslogAppender facility)

/-- `log_get_facility`: the `udata` of `log_appender_syslog`. For `NULL` Log4C, which is
not among the sources, decides, hence `none`. -/
def logGetFacility (logAppenderSyslog : Option Appender) : Option CInt :=
  logAppenderSyslog.map Appender.udata

theorem logGetSyslogAppender_udata {f : CInt} {a : Appender} (h : logGetSyslogAppender f = some a) :
    a.udata = f := by
  revert h
  unfold logGetSyslogAppender
  repeat' refine iteInduction (motive := fun o => o = some a → a.udata = f) (fun hc h => ?_) fun _ => ?_
  all_goals first | (cases h; exact hc.symm) | (intro h; cases h)

/-- `log_set_facility` either fails and keeps `log_appender_syslog`, or returns 0 with an
appender for the facility asked for or with `NULL`. -/
theorem logSetFacility_cases (cur : Option Appender) (f : CInt) :
    ((logSetFacility cur f).1 = -1 ∧ (logSetFacility cur f).2 = cur) ∨
      ((logSetFacility cur f).1 = 0 ∧ ∀ g ∈ logGetFacility (logSetFacility cur f).2, g = f) := by
  unfold logSetFacility
  split_ifs
  · exact .inl ⟨rfl,rfl⟩
  · refine .inr ⟨rfl,fun g hg => ?_⟩
    obtain ⟨a,ha,rfl⟩ := Option.mem_map.mp hg
    exact logGetSyslogAppender_udata ha

/-- Facility 129, between `LOG_LOCAL0` and `LOG_LOCAL1`, and facility 46497, whose product
wraps to a negative `int`: `log_set_facility` returns 0 and sets `log_appender_syslog` to
`NULL`, so `log_get_facility` cannot return the facility. -/
theorem logSetFacility_accepts_non_facilities (cur : Option Appender) :
    logSetFacility cur 129 = (0,none) ∧ logSetFacility cur 46497 = (0,none) :=
  ⟨rfl,rfl⟩

end Log
end Ldm7
