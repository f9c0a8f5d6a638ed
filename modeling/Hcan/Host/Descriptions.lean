import Mathlib.Data.List.Nodup

/-!
# Block descriptions of the host

The tree that the host shell reads from `eds.xml`: the block types of the EDS
with their fields.  Positions count from the first payload byte; only a field of
characters has a size of its own.
-/

namespace Hcan.Host

/-- A string of the host: its bytes. -/
abbrev Text := List UInt8

def text (s : String) : Text := s.toList.map fun c => UInt8.ofNat c.toNat

inductive EdsDatatype where
  | uint8
  | uint16
  | char
  deriving DecidableEq, Repr

structure EdsBlockFieldDesc where
  datatype : EdsDatatype
  name : String
  pos : Nat
  size : Nat
  deriving DecidableEq, Repr

structure EdsBlockDesc where
  type : UInt8
  name : String
  size : Nat
  fields : List EdsBlockFieldDesc
  deriving DecidableEq, Repr

/-- The payload bytes that belong to a field. -/
def EdsBlockFieldDesc.width (field : EdsBlockFieldDesc) : Nat :=
  match field.datatype with
  | .uint8 => 1
  | .uint16 => 2
  | .char => field.size

def edsBlockDescriptions : List EdsBlockDesc := [
  ⟨10, "taster", 3,
    [⟨.uint8, "port", 0, 0⟩, ⟨.uint8, "feature", 1, 0⟩, ⟨.uint8, "gruppe", 2, 0⟩]⟩,
  ⟨11, "powerport", 6,
    [⟨.uint8, "port", 0, 0⟩, ⟨.uint8, "feature", 1, 0⟩, ⟨.uint8, "gruppe0", 2, 0⟩,
      ⟨.uint8, "gruppe1", 3, 0⟩, ⟨.uint8, "gruppe2", 4, 0⟩, ⟨.uint8, "gruppe3", 5, 0⟩]⟩,
  ⟨12, "rolladen", 13,
    [⟨.uint8, "port_power", 0, 0⟩, ⟨.uint8, "port_dir", 1, 0⟩, ⟨.uint8, "taster", 2, 0⟩,
      ⟨.uint8, "dummy", 3, 0⟩, ⟨.uint8, "feature", 4, 0⟩, ⟨.uint16, "laufzeit", 5, 0⟩,
      ⟨.uint16, "max_rekalib", 7, 0⟩, ⟨.uint8, "gruppe0", 9, 0⟩, ⟨.uint8, "gruppe1", 10, 0⟩,
      ⟨.uint8, "gruppe2", 11, 0⟩, ⟨.uint8, "gruppe3", 12, 0⟩]⟩,
  ⟨13, "heizung", 38,
    [⟨.uint8, "id", 0, 0⟩, ⟨.uint8, "port", 1, 0⟩, ⟨.uint8, "pwm_periode", 2, 0⟩,
      ⟨.uint8, "sensor_id", 3, 0⟩, ⟨.uint8, "zeitzone0_id", 4, 0⟩,
      ⟨.uint16, "zeitzone0_temp", 5, 0⟩, ⟨.uint8, "zeitzone1_id", 7, 0⟩,
      ⟨.uint16, "zeitzone1_temp", 8, 0⟩, ⟨.uint8, "zeitzone2_id", 10, 0⟩,
      ⟨.uint16, "zeitzone2_temp", 11, 0⟩, ⟨.uint8, "zeitzone3_id", 13, 0⟩,
      ⟨.uint16, "zeitzone3_temp", 14, 0⟩, ⟨.uint8, "zeitzone4_id", 16, 0⟩,
      ⟨.uint16, "zeitzone4_temp", 17, 0⟩, ⟨.uint8, "zeitzone5_id", 19, 0⟩,
      ⟨.uint16, "zeitzone5_temp", 20, 0⟩, ⟨.uint8, "zeitzone6_id", 22, 0⟩,
      ⟨.uint16, "zeitzone6_temp", 23, 0⟩, ⟨.uint8, "zeitzone7_id", 25, 0⟩,
      ⟨.uint16, "zeitzone7_temp", 26, 0⟩, ⟨.uint8, "feature", 28, 0⟩, ⟨.uint8, "hysterese", 29, 0⟩,
      ⟨.uint8, "reed0", 30, 0⟩, ⟨.uint8, "reed1", 31, 0⟩, ⟨.uint8, "reed2", 32, 0⟩,
      ⟨.uint8, "reed3", 33, 0⟩, ⟨.uint8, "reed4", 34, 0⟩, ⟨.uint8, "reed5", 35, 0⟩,
      ⟨.uint8, "reed6", 36, 0⟩, ⟨.uint8, "reed7", 37, 0⟩]⟩,
  ⟨14, "tempsensor", 21,
    [⟨.uint8, "io_pin", 0, 0⟩, ⟨.uint8, "gruppe", 1, 0⟩, ⟨.uint8, "modus", 2, 0⟩,
      ⟨.uint8, "interval", 3, 0⟩, ⟨.char, "ow_id", 4, 17⟩]⟩,
  ⟨15, "reedkontakt", 4,
    [⟨.uint8, "port", 0, 0⟩, ⟨.uint8, "gruppe", 1, 0⟩, ⟨.uint8, "modus", 2, 0⟩,
      ⟨.uint8, "feature", 3, 0⟩]⟩,
  ⟨16, "timeservice", 3,
    [⟨.uint8, "level", 0, 0⟩, ⟨.uint8, "takeover_time", 1, 0⟩, ⟨.uint8, "interval", 2, 0⟩]⟩,
  ⟨17, "lichtzone", 11,
    [⟨.uint8, "toggle_gruppe0", 0, 0⟩, ⟨.uint8, "toggle_gruppe1", 1, 0⟩,
      ⟨.uint8, "toggle_gruppe2", 2, 0⟩, ⟨.uint8, "toggle_gruppe3", 3, 0⟩,
      ⟨.uint8, "off_gruppe0", 4, 0⟩, ⟨.uint8, "off_gruppe1", 5, 0⟩, ⟨.uint8, "on_gruppe0", 6, 0⟩,
      ⟨.uint8, "on_gruppe1", 7, 0⟩, ⟨.uint8, "timer_delay", 8, 0⟩, ⟨.uint8, "action_gruppe0", 9, 0⟩,
      ⟨.uint8, "action_gruppe1", 10, 0⟩]⟩,
  ⟨18, "zeitzone", 6,
    [⟨.uint8, "gruppe", 0, 0⟩, ⟨.uint8, "day_pattern", 1, 0⟩, ⟨.uint8, "from_hour", 2, 0⟩,
      ⟨.uint8, "from_minute", 3, 0⟩, ⟨.uint8, "to_hour", 4, 0⟩, ⟨.uint8, "to_minute", 5, 0⟩]⟩,
  ⟨19, "dunstabzugport", 5,
    [⟨.uint8, "port", 0, 0⟩, ⟨.uint8, "reed_gruppe0", 1, 0⟩, ⟨.uint8, "freischalt_taster", 2, 0⟩,
      ⟨.uint8, "freischalt_zeit", 3, 0⟩, ⟨.uint8, "reed_gruppe1", 4, 0⟩]⟩,
  ⟨20, "zeitschaltuhr", 10,
    [⟨.uint8, "power_gruppe", 0, 0⟩, ⟨.uint8, "automatikEin_schalter_gruppe", 1, 0⟩,
      ⟨.uint8, "zeitzone0_id", 2, 0⟩, ⟨.uint8, "zeitzone1_id", 3, 0⟩,
      ⟨.uint8, "zeitzone2_id", 4, 0⟩, ⟨.uint8, "zeitzone3_id", 5, 0⟩,
      ⟨.uint8, "zeitzone4_id", 6, 0⟩, ⟨.uint8, "zeitzone5_id", 7, 0⟩,
      ⟨.uint8, "zeitzone6_id", 8, 0⟩, ⟨.uint8, "zeitzone7_id", 9, 0⟩]⟩,
  ⟨21, "poti", 3,
    [⟨.uint8, "port", 0, 0⟩, ⟨.uint8, "gruppe", 1, 0⟩, ⟨.uint8, "feature", 2, 0⟩]⟩,
  ⟨25, "schalter", 3,
    [⟨.uint8, "port", 0, 0⟩, ⟨.uint8, "feature", 1, 0⟩, ⟨.uint8, "gruppe", 2, 0⟩]⟩,
  ⟨28, "zentralheizungspumpe", 3,
    [⟨.uint8, "port", 0, 0⟩, ⟨.uint8, "feature", 1, 0⟩, ⟨.uint8, "gruppe", 2, 0⟩]⟩,
  ⟨22, "tastdimmer", 11,
    [⟨.uint8, "port", 0, 0⟩, ⟨.uint8, "feedback_guppe", 1, 0⟩, ⟨.uint8, "feature", 2, 0⟩,
      ⟨.uint8, "gruppe0", 3, 0⟩, ⟨.uint8, "gruppe1", 4, 0⟩, ⟨.uint8, "gruppe2", 5, 0⟩,
      ⟨.uint8, "gruppe3", 6, 0⟩, ⟨.uint8, "gruppe4", 7, 0⟩, ⟨.uint8, "gruppe5", 8, 0⟩,
      ⟨.uint8, "gruppe6", 9, 0⟩, ⟨.uint8, "gruppe7", 10, 0⟩]⟩,
  ⟨24, "rolladenSchlitzpos", 3,
    [⟨.uint8, "reed0", 0, 0⟩, ⟨.uint8, "reed1", 1, 0⟩, ⟨.uint8, "rolladen", 2, 0⟩]⟩,
  ⟨26, "helligkeitssensor", 4,
    [⟨.uint8, "port", 0, 0⟩, ⟨.uint8, "gruppe", 1, 0⟩, ⟨.uint8, "feature", 2, 0⟩,
      ⟨.uint8, "sendCycleMins", 3, 0⟩]⟩,
  ⟨27, "rolladenAutomat", 10,
    [⟨.uint8, "rolladen_gruppe", 0, 0⟩, ⟨.uint8, "rolladen_soll_position", 1, 0⟩,
      ⟨.uint8, "automatikEin_schalter_gruppe", 2, 0⟩, ⟨.uint8, "feature", 3, 0⟩,
      ⟨.uint8, "zeitzone0_id", 4, 0⟩, ⟨.uint8, "zeitzone1_id", 5, 0⟩,
      ⟨.uint8, "helligkeits_gruppe", 6, 0⟩, ⟨.uint16, "helligkeitsschwelle", 7, 0⟩,
      ⟨.uint8, "helligkeitswertueberschreitung", 9, 0⟩]⟩,
  ⟨29, "powerportAutomat", 8,
    [⟨.uint8, "powerport_gruppe", 0, 0⟩, ⟨.uint8, "steller_gruppe", 1, 0⟩,
      ⟨.uint8, "automatikEin_schalter_gruppe", 2, 0⟩, ⟨.uint8, "feature", 3, 0⟩,
      ⟨.uint8, "helligkeits_gruppe", 4, 0⟩, ⟨.uint16, "helligkeitsschwelle", 5, 0⟩,
      ⟨.uint8, "helligkeitswertueberschreitung", 7, 0⟩]⟩,
  ⟨23, "multitaster", 13,
    [⟨.uint8, "poti_gruppe", 0, 0⟩, ⟨.uint8, "taster_port", 1, 0⟩, ⟨.uint8, "feature", 2, 0⟩,
      ⟨.uint8, "gruppe0", 3, 0⟩, ⟨.uint8, "gruppe1", 4, 0⟩, ⟨.uint8, "gruppe2", 5, 0⟩,
      ⟨.uint8, "gruppe3", 6, 0⟩, ⟨.uint8, "gruppe4", 7, 0⟩, ⟨.uint8, "gruppe5", 8, 0⟩,
      ⟨.uint8, "gruppe6", 9, 0⟩, ⟨.uint8, "gruppe7", 10, 0⟩, ⟨.uint8, "gruppe8", 11, 0⟩,
      ⟨.uint8, "gruppe9", 12, 0⟩]⟩,
  ⟨30, "rolladen_id_assignment", 20,
    [⟨.uint8, "roll_id_0", 0, 0⟩, ⟨.uint8, "roll_id_1", 1, 0⟩, ⟨.uint8, "roll_id_2", 2, 0⟩,
      ⟨.uint8, "roll_id_3", 3, 0⟩, ⟨.uint8, "roll_id_4", 4, 0⟩, ⟨.uint8, "roll_id_5", 5, 0⟩,
      ⟨.uint8, "roll_id_6", 6, 0⟩, ⟨.uint8, "roll_id_7", 7, 0⟩, ⟨.uint8, "roll_id_8", 8, 0⟩,
      ⟨.uint8, "roll_id_9", 9, 0⟩, ⟨.uint8, "roll_id_10", 10, 0⟩, ⟨.uint8, "roll_id_11", 11, 0⟩,
      ⟨.uint8, "roll_id_12", 12, 0⟩, ⟨.uint8, "roll_id_13", 13, 0⟩, ⟨.uint8, "roll_id_14", 14, 0⟩,
      ⟨.uint8, "roll_id_15", 15, 0⟩, ⟨.uint8, "roll_id_16", 16, 0⟩, ⟨.uint8, "roll_id_17", 17, 0⟩,
      ⟨.uint8, "roll_id_18", 18, 0⟩, ⟨.uint8, "roll_id_19", 19, 0⟩]⟩,
  ⟨31, "tag_nacht_agent", 29,
    [⟨.uint8, "out0", 0, 0⟩, ⟨.uint8, "process_order", 1, 0⟩, ⟨.uint8, "roll_conf_0", 2, 0⟩,
      ⟨.uint8, "roll_conf_1", 3, 0⟩, ⟨.uint8, "roll_conf_2", 4, 0⟩, ⟨.uint8, "roll_conf_3", 5, 0⟩,
      ⟨.uint8, "roll_conf_4", 6, 0⟩, ⟨.uint8, "roll_conf_5", 7, 0⟩, ⟨.uint8, "roll_conf_6", 8, 0⟩,
      ⟨.uint8, "roll_conf_7", 9, 0⟩, ⟨.uint8, "roll_conf_8", 10, 0⟩, ⟨.uint8, "roll_conf_9", 11, 0⟩,
      ⟨.uint8, "roll_conf_10", 12, 0⟩, ⟨.uint8, "roll_conf_11", 13, 0⟩,
      ⟨.uint8, "roll_conf_12", 14, 0⟩, ⟨.uint8, "roll_conf_13", 15, 0⟩,
      ⟨.uint8, "roll_conf_14", 16, 0⟩, ⟨.uint8, "roll_conf_15", 17, 0⟩,
      ⟨.uint8, "roll_conf_16", 18, 0⟩, ⟨.uint8, "roll_conf_17", 19, 0⟩,
      ⟨.uint8, "roll_conf_18", 20, 0⟩, ⟨.uint8, "roll_conf_19", 21, 0⟩,
      ⟨.uint8, "hell_grenze", 22, 0⟩, ⟨.uint8, "dunkel_grenze", 23, 0⟩, ⟨.uint8, "dummy0", 24, 0⟩,
      ⟨.uint8, "dummy1", 25, 0⟩, ⟨.uint8, "dummy2", 26, 0⟩, ⟨.uint8, "dummy3", 27, 0⟩,
      ⟨.uint8, "active", 28, 0⟩]⟩,
  ⟨32, "sonnenschutz_agent", 36,
    [⟨.uint8, "out0", 0, 0⟩, ⟨.uint8, "process_order", 1, 0⟩, ⟨.uint8, "roll_conf_0", 2, 0⟩,
      ⟨.uint8, "roll_conf_1", 3, 0⟩, ⟨.uint8, "roll_conf_2", 4, 0⟩, ⟨.uint8, "roll_conf_3", 5, 0⟩,
      ⟨.uint8, "roll_conf_4", 6, 0⟩, ⟨.uint8, "roll_conf_5", 7, 0⟩, ⟨.uint8, "roll_conf_6", 8, 0⟩,
      ⟨.uint8, "roll_conf_7", 9, 0⟩, ⟨.uint8, "roll_conf_8", 10, 0⟩, ⟨.uint8, "roll_conf_9", 11, 0⟩,
      ⟨.uint8, "roll_conf_10", 12, 0⟩, ⟨.uint8, "roll_conf_11", 13, 0⟩,
      ⟨.uint8, "roll_conf_12", 14, 0⟩, ⟨.uint8, "roll_conf_13", 15, 0⟩,
      ⟨.uint8, "roll_conf_14", 16, 0⟩, ⟨.uint8, "roll_conf_15", 17, 0⟩,
      ⟨.uint8, "roll_conf_16", 18, 0⟩, ⟨.uint8, "roll_conf_17", 19, 0⟩,
      ⟨.uint8, "roll_conf_18", 20, 0⟩, ⟨.uint8, "roll_conf_19", 21, 0⟩,
      ⟨.uint8, "ost_to_hour", 22, 0⟩, ⟨.uint8, "ost_to_min", 23, 0⟩,
      ⟨.uint8, "ost_schwelle", 24, 0⟩, ⟨.uint8, "sued_from_hour", 25, 0⟩,
      ⟨.uint8, "sued_from_min", 26, 0⟩, ⟨.uint8, "sued_to_hour", 27, 0⟩,
      ⟨.uint8, "sued_to_min", 28, 0⟩, ⟨.uint8, "sued_schwelle", 29, 0⟩,
      ⟨.uint8, "west_from_hour", 30, 0⟩, ⟨.uint8, "west_from_min", 31, 0⟩,
      ⟨.uint8, "west_schwelle", 32, 0⟩, ⟨.uint8, "hysterese", 33, 0⟩,
      ⟨.uint8, "flapinterval", 34, 0⟩, ⟨.uint8, "active", 35, 0⟩]⟩,
  ⟨33, "wetterschutz_agent", 2,
    [⟨.uint8, "out0", 0, 0⟩, ⟨.uint8, "process_order", 1, 0⟩]⟩,
  ⟨34, "prio_agent", 5,
    [⟨.uint8, "in0", 0, 0⟩, ⟨.uint8, "in1", 1, 0⟩, ⟨.uint8, "in2", 2, 0⟩, ⟨.uint8, "out0", 3, 0⟩,
      ⟨.uint8, "process_order", 4, 0⟩]⟩,
  ⟨35, "state2event_agent", 3,
    [⟨.uint8, "in0", 0, 0⟩, ⟨.uint8, "out0", 1, 0⟩, ⟨.uint8, "process_order", 2, 0⟩]⟩,
  ⟨36, "zeitfilter_agent", 19,
    [⟨.uint8, "in0", 0, 0⟩, ⟨.uint8, "out0", 1, 0⟩, ⟨.uint8, "process_order", 2, 0⟩,
      ⟨.uint8, "roll_idx_0", 3, 0⟩, ⟨.uint8, "zz_id_0", 4, 0⟩, ⟨.uint8, "roll_idx_1", 5, 0⟩,
      ⟨.uint8, "zz_id_1", 6, 0⟩, ⟨.uint8, "roll_idx_2", 7, 0⟩, ⟨.uint8, "zz_id_2", 8, 0⟩,
      ⟨.uint8, "roll_idx_3", 9, 0⟩, ⟨.uint8, "zz_id_3", 10, 0⟩, ⟨.uint8, "roll_idx_4", 11, 0⟩,
      ⟨.uint8, "zz_id_4", 12, 0⟩, ⟨.uint8, "roll_idx_5", 13, 0⟩, ⟨.uint8, "zz_id_5", 14, 0⟩,
      ⟨.uint8, "roll_idx_6", 15, 0⟩, ⟨.uint8, "zz_id_6", 16, 0⟩, ⟨.uint8, "roll_idx_7", 17, 0⟩,
      ⟨.uint8, "zz_id_7", 18, 0⟩]⟩,
  ⟨37, "flappingfilter_agent", 3,
    [⟨.uint8, "in0", 0, 0⟩, ⟨.uint8, "out0", 1, 0⟩, ⟨.uint8, "process_order", 2, 0⟩]⟩,
  ⟨90, "heizungssteuerung", 29,
    [⟨.uint8, "pwm0", 0, 0⟩, ⟨.uint8, "pwm1", 1, 0⟩, ⟨.uint8, "pwm2", 2, 0⟩, ⟨.uint8, "pwm3", 3, 0⟩,
      ⟨.uint8, "pwm4", 4, 0⟩, ⟨.uint8, "pwm5", 5, 0⟩, ⟨.uint8, "pwm6", 6, 0⟩,
      ⟨.uint8, "pwm7", 7, 0⟩, ⟨.uint8, "pwm8", 8, 0⟩, ⟨.uint8, "pwm9", 9, 0⟩,
      ⟨.uint8, "pwm10", 10, 0⟩, ⟨.uint8, "pwm11", 11, 0⟩, ⟨.uint8, "pwm12", 12, 0⟩,
      ⟨.uint8, "pwm13", 13, 0⟩, ⟨.uint8, "pwm14", 14, 0⟩, ⟨.uint8, "pwm15", 15, 0⟩,
      ⟨.uint8, "pwm16", 16, 0⟩, ⟨.uint8, "pwm17", 17, 0⟩, ⟨.uint8, "pwm18", 18, 0⟩,
      ⟨.uint8, "pwm19", 19, 0⟩, ⟨.uint8, "pwm20", 20, 0⟩, ⟨.uint8, "pwm21", 21, 0⟩,
      ⟨.uint8, "pwm22", 22, 0⟩, ⟨.uint8, "pwm23", 23, 0⟩, ⟨.uint8, "pwm_heizung_off", 24, 0⟩,
      ⟨.uint8, "a", 25, 0⟩, ⟨.uint8, "b", 26, 0⟩, ⟨.uint8, "RL_max", 27, 0⟩,
      ⟨.uint8, "VT_min", 28, 0⟩]⟩,
  ⟨91, "wetterstation_data", 6,
    [⟨.uint8, "offset_licht_ost", 0, 0⟩, ⟨.uint8, "offset_licht_sued", 1, 0⟩,
      ⟨.uint8, "offset_licht_west", 2, 0⟩, ⟨.uint8, "dummy0", 3, 0⟩, ⟨.uint8, "dummy1", 4, 0⟩,
      ⟨.uint8, "dummy2", 5, 0⟩]⟩,
  ⟨98, "lcd_light_settings", 3,
    [⟨.uint8, "zeitzone_id", 0, 0⟩, ⟨.uint8, "backlight", 1, 0⟩, ⟨.uint8, "contrast", 2, 0⟩]⟩,
  ⟨99, "userpanel_shortcuts", 8,
    [⟨.uint8, "F1", 0, 0⟩, ⟨.uint8, "F2", 1, 0⟩, ⟨.uint8, "F3", 2, 0⟩, ⟨.uint8, "F4", 3, 0⟩,
      ⟨.uint8, "F5", 4, 0⟩, ⟨.uint8, "F6", 5, 0⟩, ⟨.uint8, "F7", 6, 0⟩, ⟨.uint8, "F8", 7, 0⟩]⟩,
  ⟨100, "screensaver_page", 4,
    [⟨.uint8, "page_id", 0, 0⟩, ⟨.uint8, "parent_id", 1, 0⟩, ⟨.uint8, "next_id", 2, 0⟩,
      ⟨.uint8, "prev_id", 3, 0⟩]⟩,
  ⟨101, "dir_page", 17,
    [⟨.uint8, "page_id", 0, 0⟩, ⟨.uint8, "parent_id", 1, 0⟩, ⟨.uint8, "next_id", 2, 0⟩,
      ⟨.uint8, "prev_id", 3, 0⟩, ⟨.char, "name", 4, 12⟩, ⟨.uint8, "dummy", 16, 0⟩]⟩,
  ⟨102, "heiz_page", 13,
    [⟨.uint8, "page_id", 0, 0⟩, ⟨.uint8, "parent_id", 1, 0⟩, ⟨.uint8, "next_id", 2, 0⟩,
      ⟨.uint8, "prev_id", 3, 0⟩, ⟨.char, "name", 4, 8⟩, ⟨.uint8, "heiz_id", 12, 0⟩]⟩,
  ⟨103, "rolladen_page", 41,
    [⟨.uint8, "page_id", 0, 0⟩, ⟨.uint8, "parent_id", 1, 0⟩, ⟨.uint8, "next_id", 2, 0⟩,
      ⟨.uint8, "prev_id", 3, 0⟩, ⟨.uint8, "feature", 4, 0⟩, ⟨.uint8, "gruppe", 5, 0⟩,
      ⟨.uint8, "pos", 6, 0⟩, ⟨.char, "line0", 7, 17⟩, ⟨.char, "line1", 24, 17⟩]⟩,
  ⟨104, "taster_page", 40,
    [⟨.uint8, "page_id", 0, 0⟩, ⟨.uint8, "parent_id", 1, 0⟩, ⟨.uint8, "next_id", 2, 0⟩,
      ⟨.uint8, "prev_id", 3, 0⟩, ⟨.uint8, "feature", 4, 0⟩, ⟨.uint8, "gruppe", 5, 0⟩,
      ⟨.char, "line0", 6, 17⟩, ⟨.char, "line1", 23, 17⟩]⟩,
  ⟨105, "powerport_page", 32,
    [⟨.uint8, "page_id", 0, 0⟩, ⟨.uint8, "parent_id", 1, 0⟩, ⟨.uint8, "next_id", 2, 0⟩,
      ⟨.uint8, "prev_id", 3, 0⟩, ⟨.uint8, "feature", 4, 0⟩, ⟨.uint8, "gruppe", 5, 0⟩,
      ⟨.char, "line0", 6, 17⟩, ⟨.char, "line1", 23, 9⟩]⟩,
  ⟨107, "fenster_monitor_page", 28,
    [⟨.uint8, "page_id", 0, 0⟩, ⟨.uint8, "parent_id", 1, 0⟩, ⟨.uint8, "next_id", 2, 0⟩,
      ⟨.uint8, "prev_id", 3, 0⟩, ⟨.uint8, "reed0", 4, 0⟩, ⟨.uint8, "reed1", 5, 0⟩,
      ⟨.uint8, "reed2", 6, 0⟩, ⟨.uint8, "reed3", 7, 0⟩, ⟨.uint8, "reed4", 8, 0⟩,
      ⟨.uint8, "reed5", 9, 0⟩, ⟨.uint8, "reed6", 10, 0⟩, ⟨.uint8, "reed7", 11, 0⟩,
      ⟨.uint8, "reed8", 12, 0⟩, ⟨.uint8, "reed9", 13, 0⟩, ⟨.uint8, "reed10", 14, 0⟩,
      ⟨.uint8, "reed11", 15, 0⟩, ⟨.uint8, "reed12", 16, 0⟩, ⟨.uint8, "reed13", 17, 0⟩,
      ⟨.uint8, "reed14", 18, 0⟩, ⟨.uint8, "reed15", 19, 0⟩, ⟨.uint8, "reed16", 20, 0⟩,
      ⟨.uint8, "reed17", 21, 0⟩, ⟨.uint8, "reed18", 22, 0⟩, ⟨.uint8, "reed19", 23, 0⟩,
      ⟨.uint8, "reed20", 24, 0⟩, ⟨.uint8, "reed21", 25, 0⟩, ⟨.uint8, "reed22", 26, 0⟩,
      ⟨.uint8, "reed23", 27, 0⟩]⟩,
  ⟨108, "temp_anzeige_page", 23,
    [⟨.uint8, "page_id", 0, 0⟩, ⟨.uint8, "parent_id", 1, 0⟩, ⟨.uint8, "next_id", 2, 0⟩,
      ⟨.uint8, "prev_id", 3, 0⟩, ⟨.uint8, "feature", 4, 0⟩, ⟨.uint8, "tempsensor_id", 5, 0⟩,
      ⟨.char, "name", 6, 17⟩]⟩,
  ⟨109, "weck_page", 14,
    [⟨.uint8, "page_id", 0, 0⟩, ⟨.uint8, "parent_id", 1, 0⟩, ⟨.uint8, "next_id", 2, 0⟩,
      ⟨.uint8, "prev_id", 3, 0⟩, ⟨.uint8, "feature", 4, 0⟩, ⟨.uint8, "weck_id", 5, 0⟩,
      ⟨.char, "name", 6, 8⟩]⟩,
  ⟨110, "gesamt_heiz_page", 24,
    [⟨.uint8, "page_id", 0, 0⟩, ⟨.uint8, "parent_id", 1, 0⟩, ⟨.uint8, "next_id", 2, 0⟩,
      ⟨.uint8, "prev_id", 3, 0⟩, ⟨.char, "name", 4, 8⟩, ⟨.uint8, "heiz_id0", 12, 0⟩,
      ⟨.uint8, "heiz_id1", 13, 0⟩, ⟨.uint8, "heiz_id2", 14, 0⟩, ⟨.uint8, "heiz_id3", 15, 0⟩,
      ⟨.uint8, "heiz_id4", 16, 0⟩, ⟨.uint8, "heiz_id5", 17, 0⟩, ⟨.uint8, "heiz_id6", 18, 0⟩,
      ⟨.uint8, "heiz_id7", 19, 0⟩, ⟨.uint8, "heiz_id8", 20, 0⟩, ⟨.uint8, "heiz_id9", 21, 0⟩,
      ⟨.uint8, "heiz_id10", 22, 0⟩, ⟨.uint8, "heiz_id11", 23, 0⟩]⟩]

/-- A block fits the size byte together with its header, and its fields lie in it. -/
structure EdsBlockDesc.Fits (desc : EdsBlockDesc) : Prop where
  type : desc.type ≠ 0
  size : desc.size + 2 < 256
  fields : ∀ field ∈ desc.fields, 0 < field.width ∧ field.pos + field.width ≤ desc.size

instance (desc : EdsBlockDesc) : Decidable desc.Fits :=
  decidable_of_iff (desc.type ≠ 0 ∧ desc.size + 2 < 256 ∧
      ∀ field ∈ desc.fields, 0 < field.width ∧ field.pos + field.width ≤ desc.size)
    ⟨fun ⟨type, size, fields⟩ => ⟨type, size, fields⟩,
      fun fits => ⟨fits.type, fits.size, fits.fields⟩⟩

theorem edsBlockDescriptions_fit : ∀ desc ∈ edsBlockDescriptions, desc.Fits := by decide +kernel

theorem edsBlockDescriptions_nodup : (edsBlockDescriptions.map EdsBlockDesc.type).Nodup := by
  decide +kernel

/-! ## Lookups -/

def descByType (type : UInt8) : Option EdsBlockDesc :=
  edsBlockDescriptions.find? fun desc => desc.type == type

def descByName (name : Text) : Option EdsBlockDesc :=
  edsBlockDescriptions.find? fun desc => text desc.name == name

def EdsBlockDesc.fieldByKey (desc : EdsBlockDesc) (key : Text) : Option EdsBlockFieldDesc :=
  desc.fields.find? fun field => text field.name == key

variable {desc : EdsBlockDesc}

theorem descByType_spec {type : UInt8} (found : descByType type = some desc) :
    desc.type = type ∧ desc.Fits := by
  unfold descByType at found
  have same := List.find?_some found
  exact ⟨beq_iff_eq.mp same, edsBlockDescriptions_fit desc (List.mem_of_find?_eq_some found)⟩

/-- A description found by name is also the one found by its type. -/
theorem descByName_spec {name : Text} (found : descByName name = some desc) :
    descByType desc.type = some desc ∧ desc.Fits := by
  have member := List.mem_of_find?_eq_some found
  refine ⟨?_, edsBlockDescriptions_fit desc member⟩
  have defined : (descByType desc.type).isSome :=
    List.find?_isSome.mpr ⟨desc, member, beq_iff_eq.mpr rfl⟩
  obtain ⟨other, same⟩ := Option.isSome_iff_exists.mp defined
  rw [same, List.inj_on_of_nodup_map edsBlockDescriptions_nodup (List.mem_of_find?_eq_some same)
    member (descByType_spec same).1]

theorem fieldByKey_mem {field : EdsBlockFieldDesc} {key : Text}
    (found : desc.fieldByKey key = some field) : field ∈ desc.fields :=
  List.mem_of_find?_eq_some found

end Hcan.Host
