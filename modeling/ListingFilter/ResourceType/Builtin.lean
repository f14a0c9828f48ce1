import ListingFilter.ResourceType
/-!
# The resource types of the listings

Each resource type declares its table, the names that filters may use, the columns that a listing
shows, and the columns that only a filter may use.
-/

namespace ListingFilter

namespace ResourceType

/-- The name of the user that owns a resource. -/
def ownerName : String :=
  s!"(SELECT name FROM users AS inner_users WHERE inner_users.id = {tableSlot}.owner)"

/-- The names that most resource types let filters use. -/
def commonFilterColumns : List String :=
  ["uuid", "name", "comment", "created", "modified", "_owner"]

/-- The columns that most resource types have. -/
def commonColumns : List Column :=
  [.named "id" s!"{tableSlot}.id" .integer,
    .named "uuid" s!"{tableSlot}.uuid" .string,
    .named "name" s!"{tableSlot}.name" .string,
    .named "comment" s!"{tableSlot}.comment" .string,
    .named "created" s!"{tableSlot}.creation_time" .integer,
    .named "modified" s!"{tableSlot}.modification_time" .integer,
    .named "_owner" ownerName .string,
    .unnamed s!"{tableSlot}.owner" .integer]

/-- Texts are sorted without regard to case. -/
def lowerSort : String := s!"lower ({columnSlot}) {directionSlot}"

/-- The roles of administrators come first. -/
def rolesSort : String :=
  s!"CASE WHEN {columnSlot} LIKE 'Admin%' THEN '0' || {columnSlot}" ++
    s!" ELSE '1' || {columnSlot} END {directionSlot}"

/-- Tasks are sorted by their state and then by their progress. -/
def taskStatusSort : String :=
  s!"(CASE WHEN {tableSlot}.target = 0 THEN 'Container'" ++
    s!" ELSE run_status_name ({tableSlot}.run_status)" ++
    s!" || lpad (CAST (task_progress ({tableSlot}.id) AS text), 3, '0')" ++
    s!" END) {directionSlot}"

/-- Reports are sorted by their state and then by their progress. -/
def reportStatusSort : String :=
  s!"(CASE WHEN (SELECT target FROM tasks WHERE tasks.id = {tableSlot}.task) = 0" ++
    " THEN 'Container'" ++ s!" ELSE run_status_name ({tableSlot}.scan_run_status)" ++
    s!" || lpad (CAST (report_progress ({tableSlot}.id) AS text), 3, '0')" ++
    s!" END) {directionSlot}"

/-- Notes and overrides are sorted by what they annotate and then by their text. -/
def annotationSort : String := s!"{tableSlot}.nvt {directionSlot}, lower ({tableSlot}.text) ASC"

/-- The columns of notes and overrides. -/
def annotationColumns : List Column :=
  [.named "id" s!"{tableSlot}.id" .integer,
    .named "uuid" s!"{tableSlot}.uuid" .string,
    .named "name" s!"(SELECT name FROM nvts WHERE nvts.oid = {tableSlot}.nvt)" .string,
    .named "comment" "''" .string,
    .named "created" s!"{tableSlot}.creation_time" .integer,
    .named "modified" s!"{tableSlot}.modification_time" .integer,
    .named "nvt_id" s!"{tableSlot}.nvt" .string,
    .named "text" s!"{tableSlot}.text" .string,
    .named "hosts" s!"{tableSlot}.hosts" .string,
    .named "port" s!"{tableSlot}.port" .string,
    .named "active"
      (s!"(CASE WHEN {tableSlot}.end_time = 0 OR {tableSlot}.end_time >= m_now () THEN 1 ELSE" ++
        " 0 END)")
      .integer,
    .named "task_name" s!"(SELECT name FROM tasks WHERE tasks.id = {tableSlot}.task)" .string,
    .named "_owner" ownerName .string]

/-- Hosts, with what scans found out about them. -/
def hostType : ResourceType := declare
  { name := "host"
    table := "hosts"
    filterColumns := commonFilterColumns ++
      ["severity", "os", "oss", "hostname", "ip", "severity_level", "updated",
        "best_os_cpe"]
    selectColumns := commonColumns ++
      [.named "writable" "1" .integer,
        .named "in_use" "0" .integer,
        .named "severity"
          ("(SELECT round (CAST (severity AS numeric), 1) FROM host_max_severities WHERE" ++
            s!" host = {tableSlot}.id ORDER BY creation_time DESC LIMIT 1)")
          .double,
        .named "os"
          ("(SELECT coalesce (value, '[unknown]') FROM host_details WHERE host =" ++
            s!" {tableSlot}.id AND name = 'best_os_cpe' ORDER BY id DESC LIMIT 1)")
          .string,
        .named "oss"
          ("(SELECT string_agg (name, ', ') FROM oss WHERE id IN (SELECT DISTINCT os" ++
            s!" FROM host_oss WHERE host = {tableSlot}.id))")
          .string,
        .named "hostname"
          (s!"(SELECT value FROM host_identifiers WHERE host = {tableSlot}.id AND name =" ++
            " 'hostname' ORDER BY creation_time DESC LIMIT 1)")
          .string,
        .named "ip"
          (s!"(SELECT value FROM host_identifiers WHERE host = {tableSlot}.id AND name = 'ip'" ++
            " ORDER BY creation_time DESC LIMIT 1)")
          .string]
    whereColumns :=
      [.named "severity_level"
          ("(SELECT severity_to_level (CAST (severity AS numeric), 0) FROM" ++
            s!" host_max_severities WHERE host = {tableSlot}.id ORDER BY creation_time DESC" ++
            " LIMIT 1)")
          .string,
        .named "updated" s!"{tableSlot}.modification_time" .integer,
        .named "best_os_cpe"
          (s!"(SELECT value FROM host_details WHERE host = {tableSlot}.id AND name =" ++
            " 'best_os_cpe' ORDER BY id DESC LIMIT 1)")
          .string]
    sorts := [("ip", addressSort)] }

/-- Stored filters. -/
def filterType : ResourceType := declare
  { name := "filter"
    table := "filters"
    filterColumns := commonFilterColumns ++
      ["type", "term"]
    selectColumns := commonColumns ++
      [.named "type" s!"{tableSlot}.type" .string,
        .named "term" s!"{tableSlot}.term" .string] }

/-- Scan tasks. -/
def taskType : ResourceType := declare
  { name := "task"
    table := "tasks"
    filterColumns := commonFilterColumns ++
      ["status", "total", "threat", "trend", "severity", "target", "usage_type",
        "schedule", "last"]
    selectColumns := commonColumns ++
      [.named "status" s!"run_status_name ({tableSlot}.run_status)" .string,
        .named "total" s!"(SELECT count(*) FROM reports WHERE reports.task = {tableSlot}.id)"
          .integer,
        .named "threat" s!"task_threat_level ({tableSlot}.id, 0, 70)" .string,
        .named "trend" s!"task_trend ({tableSlot}.id, 0, 70)" .string,
        .named "severity" s!"task_severity ({tableSlot}.id, 0, 70)" .double,
        .named "target" s!"(SELECT name FROM targets WHERE targets.id = {tableSlot}.target)"
          .string,
        .named "usage_type" s!"{tableSlot}.usage_type" .string,
        .named "hosts_ordering" s!"{tableSlot}.hosts_ordering" .string]
    whereColumns :=
      [.named "last"
          s!"(SELECT max (creation_time) FROM reports WHERE reports.task = {tableSlot}.id)"
          .integer,
        .named "schedule"
          s!"(SELECT name FROM schedules WHERE schedules.id = {tableSlot}.schedule)" .string]
    sorts := [("status", taskStatusSort), ("threat", threatSort), ("last", nativeSort)] }

/-- Reports of tasks. -/
def reportType : ResourceType := declare
  { name := "report"
    table := "reports"
    filterColumns :=
      ["uuid", "name", "created", "modified", "date", "status", "severity", "high",
        "medium", "low", "log", "hosts", "result_hosts", "_owner"]
    selectColumns :=
      [.named "id" s!"{tableSlot}.id" .integer,
        .named "uuid" s!"{tableSlot}.uuid" .string,
        .named "name" s!"(SELECT name FROM tasks WHERE tasks.id = {tableSlot}.task)" .string,
        .named "comment" "''" .string,
        .named "created" s!"{tableSlot}.creation_time" .integer,
        .named "modified" s!"{tableSlot}.modification_time" .integer,
        .named "date" s!"{tableSlot}.date" .integer,
        .named "status" s!"run_status_name ({tableSlot}.scan_run_status)" .string,
        .named "severity" s!"report_severity ({tableSlot}.id, 0, 70)" .double,
        .named "high" s!"report_severity_count ({tableSlot}.id, 0, 70, 'High')" .integer,
        .named "medium" s!"report_severity_count ({tableSlot}.id, 0, 70, 'Medium')" .integer,
        .named "low" s!"report_severity_count ({tableSlot}.id, 0, 70, 'Low')" .integer,
        .named "log" s!"report_severity_count ({tableSlot}.id, 0, 70, 'Log')" .integer,
        .named "hosts" s!"report_host_count ({tableSlot}.id)" .integer,
        .named "result_hosts" s!"report_result_host_count ({tableSlot}.id, 70)" .integer,
        .unnamed s!"{tableSlot}.task" .integer,
        .named "_owner" ownerName .string]
    sorts := [("status", reportStatusSort)] }

/-- Single results of reports. -/
def resultType : ResourceType := declare
  { name := "result"
    table := "results"
    filterColumns := commonFilterColumns ++
      ["host", "hostname", "port", "nvt", "severity", "qod", "type", "description",
        "threat"]
    selectColumns := commonColumns ++
      [.named "host" s!"{tableSlot}.host" .string,
        .named "hostname" s!"{tableSlot}.hostname" .string,
        .named "port" s!"{tableSlot}.port" .string,
        .named "nvt" s!"{tableSlot}.nvt" .string,
        .named "severity" s!"{tableSlot}.severity" .double,
        .named "qod" s!"{tableSlot}.qod" .integer,
        .named "type" s!"{tableSlot}.type" .string,
        .named "description" s!"{tableSlot}.description" .string,
        .named "threat" s!"severity_to_level ({tableSlot}.severity, 0)" .string]
    sorts := [("host", addressSort), ("ip", addressSort)] }

/-- Stores of credentials. -/
def credentialStoreType : ResourceType := declare
  { name := "credential_store"
    table := "credential_stores"
    filterColumns := commonFilterColumns ++
      ["version", "host", "path", "port", "active"]
    selectColumns := commonColumns ++
      [.named "version" s!"{tableSlot}.version" .string,
        .named "host" s!"{tableSlot}.host" .string,
        .named "path" s!"{tableSlot}.path" .string,
        .named "port" s!"{tableSlot}.port" .integer,
        .named "active" s!"{tableSlot}.active" .integer]
    sorts := [("host", addressSort)] }

/-- Notes on results. -/
def noteType : ResourceType := declare
  { name := "note"
    table := "notes"
    filterColumns :=
      ["uuid", "name", "nvt", "text", "nvt_id", "task_name", "task_id", "hosts", "port",
        "active", "created", "modified", "_owner"]
    selectColumns := annotationColumns
    whereColumns :=
      [.named "nvt" s!"{tableSlot}.nvt" .string]
    sorts := [("name", annotationSort), ("nvt", annotationSort)] }

/-- Notes that override a severity. -/
def overrideType : ResourceType := declare
  { name := "override"
    table := "overrides"
    filterColumns :=
      ["uuid", "name", "nvt", "text", "nvt_id", "task_name", "task_id", "hosts", "port",
        "active", "new_severity", "created", "modified", "_owner"]
    selectColumns :=
      annotationColumns ++ [.named "new_severity" s!"{tableSlot}.new_severity" .double]
    whereColumns :=
      [.named "nvt" s!"{tableSlot}.nvt" .string]
    sorts := [("name", annotationSort), ("nvt", annotationSort)] }

/-- Roles of users. -/
def roleType : ResourceType := declare
  { name := "role"
    table := "roles"
    filterColumns := commonFilterColumns ++
      ["users"]
    selectColumns := commonColumns ++
      [.named "users"
          ("(SELECT string_agg (name, ', ') FROM users WHERE id IN (SELECT \"user\" FROM" ++
            s!" role_users WHERE role = {tableSlot}.id))")
          .string] }

/-- Users. -/
def userType : ResourceType := declare
  { name := "user"
    table := "users"
    filterColumns := commonFilterColumns ++
      ["method", "roles", "hosts"]
    selectColumns := commonColumns ++
      [.named "method" s!"{tableSlot}.method" .string,
        .named "hosts" s!"{tableSlot}.hosts" .string,
        .named "roles"
          ("(SELECT string_agg (name, ', ' ORDER BY name) FROM roles WHERE id IN (SELECT" ++
            s!" role FROM role_users WHERE \"user\" = {tableSlot}.id))")
          .string]
    sorts := [("roles", rolesSort), ("hosts", lowerSort)] }

/-- Targets of scans. -/
def targetType : ResourceType := declare
  { name := "target"
    table := "targets"
    filterColumns := commonFilterColumns ++
      ["hosts", "exclude_hosts", "port_list"]
    selectColumns := commonColumns ++
      [.named "hosts" s!"{tableSlot}.hosts" .string,
        .named "exclude_hosts" s!"{tableSlot}.exclude_hosts" .string,
        .named "port_list"
          s!"(SELECT name FROM port_lists WHERE port_lists.id = {tableSlot}.port_list)" .string,
        .unnamed s!"{tableSlot}.port_list" .integer]
    sorts := [("hosts", lowerSort)] }

/-- Tags. -/
def tagType : ResourceType := declare
  { name := "tag"
    table := "tags"
    filterColumns := commonFilterColumns ++
      ["resource_type", "active", "value", "resources"]
    selectColumns := commonColumns ++
      [.named "resource_type" s!"{tableSlot}.resource_type" .string,
        .named "active" s!"{tableSlot}.active" .integer,
        .named "value" s!"{tableSlot}.value" .string,
        .named "resources" s!"(SELECT count(*) FROM tag_resources WHERE tag = {tableSlot}.id)"
          .integer]
    sorts := [("resources", nativeSort)] }

/-- Lists of ports. -/
def portListType : ResourceType := declare
  { name := "port_list"
    table := "port_lists"
    filterColumns := commonFilterColumns ++
      ["port_ranges", "predefined"]
    selectColumns := commonColumns ++
      [.named "port_ranges"
          s!"(SELECT count(*) FROM port_ranges WHERE port_list = {tableSlot}.id)" .integer,
        .named "predefined" s!"{tableSlot}.predefined" .integer]
    sorts := [("port_ranges", nativeSort)] }

/-- Every resource type of the listings. -/
def builtin : List ResourceType :=
  [hostType, filterType, taskType, reportType, resultType, credentialStoreType, noteType,
    overrideType, roleType, userType, targetType, tagType, portListType]

end ResourceType

end ListingFilter
